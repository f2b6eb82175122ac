import SealedRows.Proofs.Condition.Unreadable

/-! # Longest words

What a word of each kind may look like is said without a text around it: digits, digits around a point with
or without a power, contents between quotes, letters, signs. The first word of a text is the longest of all
such pieces that the text begins with, and if it begins with none of them there is no first word.
-/
namespace SealedRows

/-- A run of code points in front of a text is part of the longest one. -/
theorem Text.length_le_takeWhile {p : CodePoint → Bool} {run : Text} (h : ∀ c ∈ run, p c) (rest : Text) :
    run.length ≤ ((run ++ rest).takeWhile p).length := by
  rw [List.takeWhile_append_of_pos h, List.length_append]
  exact Nat.le_add_right _ _

theorem Sign.spelling_inj {s s' : Sign} (h : s.spelling = s'.spelling) : s = s' := by
  cases s <;> cases s' <;> first | rfl | exact absurd h (by decide)

theorem Sign.mem_all (s : Sign) : s ∈ all := by cases s <;> decide

theorem Sign.length_spelling (s : Sign) : s.spelling.length = 1 ∨ s.spelling.length = 2 := by
  cases s <;> decide

namespace Shape
open Token Numeral

inductive HasForm : Shape → Text → Prop where
  | integer {ds : Text} (hne : ds ≠ []) (hds : ∀ d ∈ ds, d.isDigit) : HasForm .integer ds
  | float {whole places power : Text} (hne : whole ≠ []) (hwhole : ∀ d ∈ whole, d.isDigit)
      (hne' : places ≠ []) (hplaces : ∀ d ∈ places, d.isDigit) (hpower : IsPower power) :
      HasForm .float (whole ++ CodePoint.ofChar '.' :: (places ++ power))
  | string {contents : Text} (h : IsContents contents) : HasForm .string ('"' :: (contents ++ "\""))
  | name {c : CodePoint} {word : Text} (hc : isNameStart c) (hword : ∀ d ∈ word, isNamePart d) :
      HasForm .name (c :: word)
  | sign (s : Sign) : HasForm (.sign s) s.spelling

/-- Whether a word stands in front of a rest such that no word of any shape that begins at its place is
longer. -/
structure IsLongest (shape : Shape) (word rest : Text) : Prop where
  form : shape.HasForm word
  longest : ∀ other longer, HasForm other longer → longer <+: word ++ rest → longer.length ≤ word.length

/-! ## Numbers -/

theorem digits_append {ds : Text} (h : ∀ d ∈ ds, d.isDigit) {rest : Text}
    (hrest : ∀ d ∈ rest.head?, d.isDigit = false) : digits (ds ++ rest) = ds.length := by
  rw [digits, (Text.takeWhile_append_stop h hrest).1]

theorem digits_ne_zero {ds : Text} (hne : ds ≠ []) (h : ∀ d ∈ ds, d.isDigit) (rest : Text) :
    digits (ds ++ rest) ≠ 0 :=
  Nat.ne_zero_of_lt (Nat.lt_of_lt_of_le (List.length_pos_iff.mpr hne) (Text.length_le_takeWhile h rest))

theorem isDigit_of_letter {e : CodePoint} (h : e = 'e' ∨ e = 'E') : e.isDigit = false := by
  rcases h with rfl | rfl <;> decide +kernel

theorem power_digits {e : CodePoint} (he : e = 'e' ∨ e = 'E') {sign : Text}
    (hsign : sign = [] ∨ sign = [CodePoint.ofChar '+'] ∨ sign = [CodePoint.ofChar '-']) {ds : Text}
    (hne : ds ≠ []) (hds : ∀ d ∈ ds, d.isDigit) (rest : Text) :
    power (e :: (sign ++ (ds ++ rest))) = 1 + sign.length + digits (ds ++ rest) := by
  have hpos := digits_ne_zero hne hds rest
  rcases hsign with rfl | rfl | rfl
  · cases ds with
    | nil => exact absurd rfl hne
    | cons d ds =>
      have hd : ¬(d = '+' ∨ d = '-') := by
        rintro (rfl | rfl) <;> exact absurd (hds _ List.mem_cons_self) (by decide +kernel)
      rw [List.cons_append] at hpos
      simp [power, he, hd, hpos]
  · simp [power, he, hpos]
  · simp [power, he, hpos]

theorem length_le_power {p : Text} (h : IsPower p) (rest : Text) : p.length ≤ power (p ++ rest) := by
  cases h with
  | nil => exact Nat.zero_le _
  | @digits e he sign hsign ds hne hds =>
    have hle : ds.length ≤ digits (ds ++ rest) := Text.length_le_takeWhile hds rest
    rw [List.cons_append, List.append_assoc, power_digits he hsign hne hds, List.length_cons,
      List.length_append]
    omega

/-- Places and a power are covered by the most places there are and the power behind these. -/
theorem length_le_places {places p : Text} (hplaces : ∀ d ∈ places, d.isDigit) (hp : IsPower p)
    (rest : Text) : (places ++ p).length ≤ digits (places ++ (p ++ rest)) +
      power ((places ++ (p ++ rest)).drop (digits (places ++ (p ++ rest)))) := by
  rw [List.length_append]
  by_cases hnil : p = []
  · rw [hnil]
    exact Nat.le_add_right_of_le (Text.length_le_takeWhile hplaces _)
  · -- A power begins with a letter, so the places end there.
    have hstop : ∀ d ∈ (p ++ rest).head?, d.isDigit = false := by
      cases hp with
      | nil => exact absurd rfl hnil
      | digits he =>
        rintro _ ⟨⟩
        exact isDigit_of_letter he
    rw [digits_append hplaces hstop, List.drop_left]
    exact Nat.add_le_add_left (length_le_power hp rest) _

theorem fraction_point {t : Text} (h : digits t ≠ 0) :
    fraction (CodePoint.ofChar '.' :: t) = 1 + digits t := by
  simp [fraction, Nat.pos_of_ne_zero h]

theorem first?_of_isDigit {c : CodePoint} (hc : c.isDigit) (t : Text) : first? c t =
    if fraction (t.drop (digits t)) = 0 then some (.integer,digits t)
    else some (.float,digits t + fraction (t.drop (digits t)) +
      power (t.drop (digits t + fraction (t.drop (digits t))))) := by
  rw [first?, if_pos hc]

/-- Where digits begin a text, the first word is an integer of them or a float that is longer. -/
theorem exists_first?_integer {c : CodePoint} {ds : Text} (hc : c.isDigit) (hds : ∀ d ∈ ds, d.isDigit)
    (rest : Text) : ∃ other n, first? c (ds ++ rest) = some (other,n) ∧ ds.length ≤ n ∧
      (ds.length = n → other = .integer) := by
  have hle : ds.length ≤ digits (ds ++ rest) := Text.length_le_takeWhile hds rest
  rw [first?_of_isDigit hc]
  split
  · exact ⟨_,_,rfl,hle,fun _ => rfl⟩
  · exact ⟨_,_,rfl,by omega,by omega⟩

theorem exists_first?_float {c : CodePoint} {whole places p : Text} (hc : c.isDigit)
    (hwhole : ∀ d ∈ whole, d.isDigit) (hne : places ≠ []) (hplaces : ∀ d ∈ places, d.isDigit)
    (hp : IsPower p) (rest : Text) :
    ∃ n, first? c (whole ++ CodePoint.ofChar '.' :: (places ++ (p ++ rest))) = some (.float,n) ∧
      (whole ++ CodePoint.ofChar '.' :: (places ++ p)).length ≤ n := by
  have hpoint : ∀ d ∈ (CodePoint.ofChar '.' :: (places ++ (p ++ rest))).head?, d.isDigit = false := by
    rintro _ ⟨⟩
    decide +kernel
  have hfraction := fraction_point (digits_ne_zero hne hplaces (p ++ rest))
  have hlength := length_le_places hplaces hp rest
  rw [first?_of_isDigit hc, digits_append hwhole hpoint, List.drop_left, hfraction, if_neg (by omega)]
  refine ⟨_,rfl,?_⟩
  rw [List.drop_length_add_append, Nat.add_comm 1, List.drop_succ_cons, List.length_append,
    List.length_cons]
  omega

/-! ## Signs -/

/-- The signs of two code points are looked for first. -/
theorem sign_first?_of_length {s : Sign} (h : s.spelling.length = 2) (rest : Text) :
    Sign.first? (s.spelling ++ rest) = some s := by
  cases s <;> first | rfl | exact absurd h (by decide)

theorem prefix_of_sign_first? {t : Text} {s : Sign} (h : Sign.first? t = some s) : s.spelling <+: t := by
  have hfront := List.find?_some h
  exact List.isPrefixOf_iff_prefix.mp hfront

theorem exists_sign_first? (s : Sign) (rest : Text) : ∃ s', Sign.first? (s.spelling ++ rest) = some s' ∧
    s.spelling.length ≤ s'.spelling.length ∧ (s.spelling.length = s'.spelling.length → s' = s) := by
  rcases s.length_spelling with hone | htwo
  · obtain ⟨s',hs'⟩ : ∃ s', Sign.first? (s.spelling ++ rest) = some s' := by
      rw [← Option.isSome_iff_exists, Sign.first?, List.find?_isSome]
      exact ⟨s,s.mem_all,List.isPrefixOf_iff_prefix.mpr (List.prefix_append _ _)⟩
    refine ⟨s',hs',?_,fun hlength => ?_⟩
    · rcases s'.length_spelling with h | h <;> omega
    · have hfront : s'.spelling <+: s.spelling :=
        List.prefix_of_prefix_length_le (prefix_of_sign_first? hs') (List.prefix_append _ rest)
          (Nat.le_of_eq hlength.symm)
      exact Sign.spelling_inj (hfront.eq_of_length hlength.symm)
  · exact ⟨s,sign_first?_of_length htwo rest,Nat.le_refl _,fun _ => rfl⟩

theorem exists_first?_sign {s : Sign} {c : CodePoint} {word : Text} (hs : s.spelling = c :: word)
    (rest : Text) : ∃ other n, first? c (word ++ rest) = some (other,n) ∧ word.length ≤ n ∧
      (word.length = n → other = .sign s) := by
  obtain ⟨s',hs',hle,heq⟩ := exists_sign_first? s rest
  obtain ⟨_,_,hform,hdigit,hquote,hname,-⟩ := Sign.exists_spelling s
  rw [hs] at hform
  cases hform
  rw [hs, List.cons_append] at hs'
  rw [hs, List.length_cons] at hle heq
  refine ⟨.sign s',s'.spelling.length - 1,?_,by omega,fun hlength => ?_⟩
  · simp [first?, hdigit, hquote, hname, hs']
  · rw [heq (by omega)]

/-! ## First words -/

theorem HasForm.exists_cons {shape : Shape} {form : Text} (h : HasForm shape form) :
    ∃ c word, form = c :: word ∧ isGap c = false := by
  cases h with
  | integer hne hds =>
    cases form with
    | nil => exact absurd rfl hne
    | cons d ds => exact ⟨d,ds,rfl,isGap_of_isDigit (hds d List.mem_cons_self)⟩
  | @float whole _ _ hne hwhole =>
    cases whole with
    | nil => exact absurd rfl hne
    | cons d whole => exact ⟨d,_,rfl,isGap_of_isDigit (hwhole d List.mem_cons_self)⟩
  | string => exact ⟨_,_,rfl,by decide⟩
  | name hc => exact ⟨_,_,rfl,isGap_of_isNameStart hc⟩
  | sign s =>
    obtain ⟨c,word,hs,-,-,-,hgap⟩ := Sign.exists_spelling s
    exact ⟨c,word,hs,hgap⟩

/-- The first word is at least as long as each piece in front that looks like a word, and none but the first
word itself is of the same length. -/
theorem HasForm.exists_first? {shape : Shape} {c : CodePoint} {word : Text} (h : HasForm shape (c :: word))
    (rest : Text) : ∃ other n, first? c (word ++ rest) = some (other,n) ∧ word.length ≤ n ∧
      (word.length = n → other = shape) := by
  generalize hform : c :: word = form at h
  cases h with
  | integer hne hds =>
    subst hform
    obtain ⟨hc,hds⟩ := List.forall_mem_cons.mp hds
    exact exists_first?_integer hc hds rest
  | @float whole places power hne hwhole hne' hplaces hpower =>
    cases whole with
    | nil => exact absurd rfl hne
    | cons d whole =>
      cases hform
      obtain ⟨hc,hdigits⟩ := List.forall_mem_cons.mp hwhole
      obtain ⟨n,hfirst,hle⟩ := exists_first?_float hc hdigits hne' hplaces hpower rest
      exact ⟨_,n,by simpa using hfirst,hle,fun _ => rfl⟩
  | @string contents hcontents =>
    cases hform
    exact ⟨_,_,first?_string hcontents rest,Nat.le_refl _,fun _ => rfl⟩
  | name hc hword =>
    cases hform
    have hquote : c ≠ '"' := by
      rintro rfl
      exact absurd hc (by decide)
    refine ⟨.name,_,?_,Text.length_le_takeWhile hword rest,fun _ => rfl⟩
    simp [first?, isDigit_of_isNameStart hc, hquote, hc]
  | sign s => exact exists_first?_sign hform.symm rest

theorem exists_digits (t : Text) :
    ∃ ds rest, t = ds ++ rest ∧ (∀ d ∈ ds, d.isDigit) ∧ digits t = ds.length :=
  ⟨t.takeWhile CodePoint.isDigit,t.dropWhile CodePoint.isDigit,List.takeWhile_append_dropWhile.symm,
    List.all_eq_true.mp List.all_takeWhile,rfl⟩

theorem exists_power (t : Text) : ∃ p rest, t = p ++ rest ∧ IsPower p ∧ power t = p.length := by
  rcases power_cases t with hzero | ⟨e,sign,rest,rfl,he,hsign,hdigits,hpower⟩
  · exact ⟨[],t,rfl,.nil,hzero⟩
  · obtain ⟨ds,rest,rfl,hds,hlength⟩ := exists_digits rest
    rw [hlength] at hdigits hpower
    refine ⟨e :: (sign ++ ds),rest,by simp,.digits he hsign (List.length_pos_iff.mp ?_) hds,?_⟩
    · exact Nat.pos_of_ne_zero hdigits
    · rw [hpower, List.length_cons, List.length_append]
      omega

theorem fraction_ne_one (t : Text) : fraction t ≠ 1 := by
  intro h
  obtain ⟨rest,rfl,hfraction⟩ := exists_of_fraction (t := t) (by omega)
  have hzero : digits rest = 0 := by omega
  simp [fraction, hzero] at h

theorem exists_form_of_isDigit {c : CodePoint} {t : Text} {shape : Shape} {n : Nat} (hc : c.isDigit)
    (h : first? c t = some (shape,n)) :
    ∃ word rest, t = word ++ rest ∧ n = word.length ∧ HasForm shape (c :: word) := by
  rw [first?_of_isDigit hc] at h
  split at h
  · cases h
    obtain ⟨ds,rest,rfl,hds,hlength⟩ := exists_digits t
    exact ⟨ds,rest,rfl,hlength,.integer (List.cons_ne_nil c ds) (List.forall_mem_cons.mpr ⟨hc,hds⟩)⟩
  · next hpoint =>
    cases h
    have hone := fraction_ne_one (t.drop (digits t))
    obtain ⟨whole,places,tail,rfl,hwhole,hplaces,hlength,hlength'⟩ := exists_double hpoint
    rw [hlength'] at hone ⊢
    rw [hlength, drop_double]
    obtain ⟨p,rest,rfl,hp,hlength⟩ := exists_power tail
    have hne : places ≠ [] := by
      rintro rfl
      exact hone rfl
    refine ⟨whole ++ CodePoint.ofChar '.' :: (places ++ p),rest,by simp,?_,?_⟩
    · rw [hlength, List.length_append, List.length_cons, List.length_append]
      omega
    · exact .float (List.cons_ne_nil c whole) (List.forall_mem_cons.mpr ⟨hc,hwhole⟩) hne hplaces hp

/-- The first word looks like a word of its shape. -/
theorem exists_form_of_first? {c : CodePoint} {t : Text} {shape : Shape} {n : Nat}
    (h : first? c t = some (shape,n)) :
    ∃ word rest, t = word ++ rest ∧ n = word.length ∧ HasForm shape (c :: word) := by
  by_cases hdigit : c.isDigit
  · exact exists_form_of_isDigit hdigit h
  rw [first?, if_neg hdigit] at h
  split at h
  · next hquote =>
    obtain ⟨length,hcontents,hpair⟩ := Option.map_eq_some_iff.mp h
    cases hpair
    obtain ⟨contents,rest,his,rfl,rfl⟩ := exists_contents hcontents
    rw [hquote]
    exact ⟨contents ++ "\"",rest,by simp [Text.ofString],by simp [Text.ofString],.string his⟩
  · split at h
    · next hname =>
      cases h
      exact ⟨t.takeWhile isNamePart,t.dropWhile isNamePart,List.takeWhile_append_dropWhile.symm,rfl,
        .name hname (List.all_eq_true.mp List.all_takeWhile)⟩
    · obtain ⟨s,hs,hpair⟩ := Option.map_eq_some_iff.mp h
      cases hpair
      obtain ⟨d,word,hform,-⟩ := Sign.exists_spelling s
      have hfront := prefix_of_sign_first? hs
      rw [hform, List.cons_prefix_cons] at hfront
      obtain ⟨rfl,rest,rfl⟩ := hfront
      exact ⟨word,rest,rfl,by rw [hform]; rfl,by rw [← hform]; exact .sign s⟩

theorem isLongest_iff {shape : Shape} {c : CodePoint} {word rest : Text} :
    shape.IsLongest (c :: word) rest ↔ first? c (word ++ rest) = some (shape,word.length) := by
  constructor
  · intro h
    obtain ⟨other,n,hfirst,hle,heq⟩ := h.form.exists_first? rest
    obtain ⟨longer,tail,htail,rfl,hform⟩ := exists_form_of_first? hfirst
    have hfront : c :: longer <+: c :: word ++ rest := by
      rw [List.cons_append, htail]
      exact List.prefix_append (c :: longer) tail
    have hlength : word.length = longer.length :=
      Nat.le_antisymm hle (Nat.le_of_succ_le_succ (h.longest other _ hform hfront))
    rw [hfirst, heq hlength, hlength]
  · intro hfirst
    obtain ⟨word',rest',htail,hlength,hform⟩ := exists_form_of_first? hfirst
    obtain ⟨rfl,rfl⟩ := List.append_inj htail hlength
    refine ⟨hform,fun other longer hlonger hfront => ?_⟩
    obtain ⟨d,longer,rfl,-⟩ := hlonger.exists_cons
    rw [List.cons_append, List.cons_prefix_cons] at hfront
    obtain ⟨rfl,tail,htail⟩ := hfront
    obtain ⟨_,n,hother,hle,-⟩ := hlonger.exists_first? tail
    rw [htail, hfirst] at hother
    cases hother
    exact Nat.succ_le_succ hle

theorem first?_eq_none_iff {c : CodePoint} {t : Text} : first? c t = none ↔
    ∀ shape form, HasForm shape form → ¬form <+: c :: t := by
  constructor
  · intro hnone shape form hform hfront
    obtain ⟨d,word,rfl,-⟩ := hform.exists_cons
    rw [List.cons_prefix_cons] at hfront
    obtain ⟨rfl,tail,rfl⟩ := hfront
    obtain ⟨_,_,hfirst,-⟩ := hform.exists_first? tail
    rw [hnone] at hfirst
    cases hfirst
  · intro h
    rw [Option.eq_none_iff_forall_ne_some]
    rintro ⟨shape,n⟩ hfirst
    obtain ⟨word,rest,rfl,-,hform⟩ := exists_form_of_first? hfirst
    exact h shape _ hform (List.prefix_append (c :: word) rest)

end Shape
end SealedRows
