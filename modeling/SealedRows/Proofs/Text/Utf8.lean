import SealedRows.Bytes

/-! # Eight-bit units

The bytes of a text in UTF-8 are ordered as its code points are: the first byte of a longer form is
above those of all shorter ones, and within a form the digits of the code point follow from the
highest to the lowest. A lone surrogate has no form of its own; with the form of its number it has its
place in this order too.
-/
namespace SealedRows

def Text.toUtf8? : Text → Option Bytes
  | [] => some []
  | c :: t => c.toChar?.bind fun ch => (toUtf8? t).map (String.utf8EncodeChar ch ++ ·)

def utf8Form (v : Nat) : Bytes :=
  if v ≤ 0x7f then [UInt8.ofNat v]
  else if v ≤ 0x7ff then [UInt8.ofNat (v / 64 % 0x20 + 0xc0), UInt8.ofNat (v % 0x40 + 0x80)]
  else if v ≤ 0xffff then
    [UInt8.ofNat (v / 4096 % 0x10 + 0xe0), UInt8.ofNat (v / 64 % 0x40 + 0x80),
      UInt8.ofNat (v % 0x40 + 0x80)]
  else
    [UInt8.ofNat (v / 262144 % 0x08 + 0xf0), UInt8.ofNat (v / 4096 % 0x40 + 0x80),
      UInt8.ofNat (v / 64 % 0x40 + 0x80), UInt8.ofNat (v % 0x40 + 0x80)]

/-- The bytes of a text in UTF-8, in which surrogates have the forms of their numbers. -/
def Text.toUtf8 (t : Text) : Bytes := t.flatMap fun c => utf8Form c.val

theorem utf8EncodeChar_eq (c : Char) : String.utf8EncodeChar c = utf8Form c.val.toNat := rfl

/-- Of two numbers with four digits the first digits that differ decide. -/
theorem four_digits_lt {v w : Nat} (h : v < w) (P : Prop) :
    v / 262144 < w / 262144 ∨ v / 262144 = w / 262144 ∧
      (v / 4096 % 64 < w / 4096 % 64 ∨ v / 4096 % 64 = w / 4096 % 64 ∧
        (v / 64 % 64 < w / 64 % 64 ∨ v / 64 % 64 = w / 64 % 64 ∧
          (v % 64 < w % 64 ∨ v % 64 = w % 64 ∧ P))) := by
  rcases Nat.lt_or_ge (v / 262144) (w / 262144) with h1 | h1
  · exact Or.inl h1
  refine Or.inr ⟨by omega,?_⟩
  rcases Nat.lt_or_ge (v / 4096) (w / 4096) with h2 | h2
  · exact Or.inl (by omega)
  refine Or.inr ⟨by omega,?_⟩
  rcases Nat.lt_or_ge (v / 64) (w / 64) with h3 | h3
  · exact Or.inl (by omega)
  · exact Or.inr ⟨by omega,Or.inl (by omega)⟩

/-- The form of a smaller number is below that of a greater one, whatever follows. -/
theorem utf8Form_append_lt {v w : Nat} (h : v < w) (hw : w < 0x110000) (s t : Bytes) :
    utf8Form v ++ s < utf8Form w ++ t := by
  simp only [utf8Form]
  have hlong := four_digits_lt h (s < t)
  -- Each number has one of four forms, and the smaller one no longer form than the greater one.
  split <;> split <;> (try split) <;> (try split) <;> (try split) <;> (try split) <;>
    simp only [List.cons_append, List.nil_append, List.cons_lt_cons_iff, UInt8.lt_iff_toNat_lt,
      ← UInt8.toNat_inj, UInt8.toNat_ofNat'] <;>
    simp (disch := omega) only [Nat.mod_eq_of_lt] <;>
    omega

theorem cons_lt_cons_left {α : Type} [LT α] {x : α} (hx : ¬x < x) {s t : List α} :
    x :: s < x :: t ↔ s < t := by
  simp [List.cons_lt_cons_iff, hx]

theorem append_lt_append_left (bs : Bytes) {s t : Bytes} : bs ++ s < bs ++ t ↔ s < t := by
  induction bs with
  | nil => rfl
  | cons b bs ih => rw [List.cons_append, List.cons_append, cons_lt_cons_left (UInt8.lt_irrefl b), ih]

theorem utf8Form_ne_nil (v : Nat) : utf8Form v ≠ [] := by
  rw [utf8Form]
  split
  · exact List.cons_ne_nil _ _
  · split
    · exact List.cons_ne_nil _ _
    · split <;> exact List.cons_ne_nil _ _

theorem CodePoint.val_of_toChar? {c : CodePoint} {ch : Char} (h : c.toChar? = some ch) :
    ch.val.toNat = c.val := by
  have hc := c.isLt
  rw [toChar?] at h
  split at h
  · cases h
  · rename_i hsurrogate
    cases h
    have hvalid : c.val.isValidChar := by
      simp only [isSurrogate, Bool.and_eq_true, decide_eq_true_eq] at hsurrogate
      simp only [Nat.isValidChar]
      omega
    rw [Char.ofNat, dif_pos hvalid]
    rfl

theorem Text.toUtf8?_cons {c : CodePoint} {t : Text} {bs : Bytes} (h : toUtf8? (c :: t) = some bs) :
    ∃ ch rest, ch.val.toNat = c.val ∧ toUtf8? t = some rest ∧ bs = String.utf8EncodeChar ch ++ rest := by
  obtain ⟨ch,hch,hbs⟩ := Option.bind_eq_some_iff.mp h
  obtain ⟨rest,hrest,rfl⟩ := Option.map_eq_some_iff.mp hbs
  exact ⟨ch,rest,CodePoint.val_of_toChar? hch,hrest,rfl⟩

theorem Text.exists_toUtf8? {t : Text} (h : ∀ c ∈ t, c.isSurrogate = false) :
    ∃ bs, t.toUtf8? = some bs := by
  induction t with
  | nil => exact ⟨[],rfl⟩
  | cons c t ih =>
    obtain ⟨hc,ht⟩ := List.forall_mem_cons.mp h
    obtain ⟨bs,hbs⟩ := ih ht
    exact ⟨_,by rw [toUtf8?, CodePoint.toChar?, hc, hbs]; rfl⟩

namespace Text

theorem toUtf8_of_toUtf8? {t : Text} {bs : Bytes} (h : t.toUtf8? = some bs) : t.toUtf8 = bs := by
  induction t generalizing bs with
  | nil =>
    cases h
    rfl
  | cons c t ih =>
    obtain ⟨ch,rest,hch,hrest,rfl⟩ := toUtf8?_cons h
    have htail := ih hrest
    rw [toUtf8] at htail
    rw [toUtf8, List.flatMap_cons, htail, utf8EncodeChar_eq, hch]

theorem nil_lt_toUtf8_cons (c : CodePoint) (t : Text) : ([] : Bytes) < toUtf8 (c :: t) := by
  obtain ⟨x,xs,hx⟩ := List.exists_cons_of_ne_nil (utf8Form_ne_nil c.val)
  rw [toUtf8, List.flatMap_cons, hx, List.cons_append]
  exact List.nil_lt_cons x _

/-- Texts are ordered as their bytes are. -/
theorem lt_iff_toUtf8_lt (t u : Text) : t < u ↔ t.toUtf8 < u.toUtf8 := by
  induction t generalizing u with
  | nil =>
    cases u with
    | nil => exact iff_of_false (List.lt_irrefl _) (List.lt_irrefl _)
    | cons d u => exact iff_of_true (List.nil_lt_cons d u) (nil_lt_toUtf8_cons d u)
  | cons c t ih =>
    cases u with
    | nil => exact iff_of_false (List.not_lt_nil _) (List.not_lt_nil _)
    | cons d u =>
      rcases Nat.lt_trichotomy c.val d.val with hlt | heq | hgt
      · refine iff_of_true (List.cons_lt_cons_iff.mpr (Or.inl hlt)) ?_
        exact utf8Form_append_lt hlt d.isLt _ _
      · cases (Fin.ext heq : c = d)
        rw [cons_lt_cons_left (show ¬c < c from Nat.lt_irrefl _), ih]
        exact (append_lt_append_left (utf8Form c.val)).symm
      · refine iff_of_false ?_ ?_
        · exact List.lt_asymm (List.cons_lt_cons_iff.mpr (Or.inl hgt))
        · exact List.lt_asymm (utf8Form_append_lt hgt c.isLt _ _)

end Text
end SealedRows
