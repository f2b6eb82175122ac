import SealedRows.Proofs.Sql.Comparing

/-! # Equal layouts

A column that stores layouts finds a value by its layout. Equal integers, instants and byte strings have
one layout. Equal decimals have one only if they have the same sign and as many places: 1.5 and 1.50 have
two, and so have zero and minus zero.
-/
namespace SealedRows

/-- Whether two decimals have the same sign and as many places behind the point. Other values are written
in one way. -/
def Value.WrittenAlike : Value → Value → Prop
  | .decimal (.finite negative _ e), .decimal (.finite negative' _ e') =>
    negative = negative' ∧ (-e).toNat = (-e').toNat
  | _, _ => True

theorem Value.equals_iff_of_holds {v w : Value} {o : Ordering}
    (h : Operator.eq.holds v w = .ok (Operator.eq.accepts o)) : v.equals w = .ok true ↔ o = .eq := by
  have hequals : v.equals w = .ok (o == .eq) := h
  rw [hequals, Except.ok.injEq, beq_iff_eq]

theorem Moment.toBytes?_eq_iff {m n : Moment} {a b : Bytes} (ha : m.toBytes? = some a)
    (hb : n.toBytes? = some b) : a = b ↔ m.sameAs n := by
  rw [sameAs, Bool.and_eq_true, beq_iff_eq, beq_iff_eq]
  constructor
  · rintro rfl
    obtain ⟨hoffset,hinstant⟩ := toUniversal?_spec (ofBytes_toBytes? ha)
    obtain ⟨hoffset',hinstant'⟩ := toUniversal?_spec (ofBytes_toBytes? hb)
    have hclocks := congrArg Option.isSome (hoffset.symm.trans hoffset')
    rw [Option.isSome_map, Option.isSome_map] at hclocks
    exact ⟨hclocks,hinstant.symm.trans hinstant'⟩
  · rintro ⟨hclocks,hinstants⟩
    have hoffsets : m.offset.map (fun _ => (0 : Int)) = n.offset.map fun _ => 0 := by
      cases hm : m.offset <;> cases hn : n.offset <;> simp [hm, hn] at hclocks ⊢
    rw [toBytes?, toUniversal?, hinstants, hoffsets] at ha
    exact Option.some_inj.mp (ha.symm.trans hb)

namespace Decimal
variable {negative negative' : Bool} {c c' : ℕ} {e e' : ℤ} {a b : Bytes}

theorem toBytes_eq_iff (ha : (finite negative c e).toBytes = .ok a)
    (hb : (finite negative' c' e').toBytes = .ok b) :
    a = b ↔ (negative = negative' ∧ (-e).toNat = (-e').toNat) ∧ c * 10 ^ e.toNat = c' * 10 ^ e'.toNat := by
  constructor
  · rintro rfl
    have hread := (ofBytes_toBytes ha).1
    rw [(ofBytes_toBytes hb).1] at hread
    rw [finite.injEq] at hread
    obtain ⟨hsign,hdigits,hmin⟩ := hread
    exact ⟨⟨hsign.symm,by omega⟩,hdigits.symm⟩
  · rintro ⟨⟨rfl,hscale⟩,hdigits⟩
    rw [(toBytes_eq_ok.mp ha).2, (toBytes_eq_ok.mp hb).2, hscale, hdigits]

theorem number_eq_iff (hsign : negative = negative') (hscale : (-e).toNat = (-e').toNat) :
    number negative c e = number negative' c' e' ↔ c * 10 ^ e.toNat = c' * 10 ^ e'.toNat := by
  have hsize : size c e = size c' e' ↔ c * 10 ^ e.toNat = c' * 10 ^ e'.toNat := by
    have hmin : min e 0 = min e' 0 := by omega
    have hunit : (10 : ℚ) ^ min e' 0 ≠ 0 := zpow_ne_zero _ (by norm_num)
    rw [size_eq_scaled c e 0, size_eq_scaled c' e' 0, hmin, Int.sub_zero, Int.sub_zero,
      mul_left_inj' hunit, Nat.cast_inj]
  rw [← hsize]
  subst hsign
  cases negative <;> simp [number]

end Decimal

namespace ValueKind
variable {kind : ValueKind} {v w : Value} {a b : Bytes}

theorem exists_toBytes_integer {l : IntLayout} (h : (integer l).toBytes v = .ok a) :
    ∃ n, v.integer? = some n ∧ l.Holds n ∧ a = l.toBytes n := by
  obtain ⟨n,hn,_⟩ := integer?_eq_of_toBytes h
  simp only [toBytes, hn] at h
  split at h
  · rename_i hholds
    cases h
    exact ⟨n,hn,hholds,rfl⟩
  · cases h

theorem bytes?_of_toBytes (h : bytes.toBytes v = .ok a) : v.bytes? = some a := by
  cases v <;> cases h <;> rfl

theorem toBytes_bytes_eq_iff (ha : bytes.toBytes v = .ok a) (hb : bytes.toBytes w = .ok b) :
    a = b ↔ v.equals w = .ok true := by
  rw [Value.equals_iff_of_holds (Value.holds_of_bytes .eq (bytes?_of_toBytes ha) (bytes?_of_toBytes hb)),
    Std.compare_eq_iff_eq]

theorem toBytes_integer_eq_iff {l : IntLayout} (ha : (integer l).toBytes v = .ok a)
    (hb : (integer l).toBytes w = .ok b) : a = b ↔ v.equals w = .ok true := by
  obtain ⟨m,hm,hholds,rfl⟩ := exists_toBytes_integer ha
  obtain ⟨n,hn,hholds',rfl⟩ := exists_toBytes_integer hb
  rw [Value.equals_iff_of_holds (Value.holds_of_numbers .eq (number?_of_integer? hm)
      (number?_of_integer? hn) (Decimal.extended?_ofInt m) (Decimal.extended?_ofInt n)),
    compare_eq_iff_eq, ExtendedRat.strictMono_ofRat.injective.eq_iff, Int.cast_inj]
  constructor
  · intro h
    rw [← IntLayout.ofBytes_toBytes hholds, h, IntLayout.ofBytes_toBytes hholds']
  · rintro rfl
    rfl

theorem toBytes_moment_eq_iff {m n : Moment} (ha : timestamp.toBytes (.moment m) = .ok a)
    (hb : timestamp.toBytes (.moment n) = .ok b) :
    a = b ↔ (Value.moment m).equals (.moment n) = .ok true := by
  have hequals : (Value.moment m).equals (.moment n) = .ok (m.sameAs n) := by
    simp only [Value.equals]
    rfl
  simp only [toBytes] at ha hb
  split at ha
  · rename_i hm
    split at hb
    · rename_i hn
      cases ha
      cases hb
      rw [hequals, Except.ok.injEq, Moment.toBytes?_eq_iff hm hn]
    · cases hb
  · cases ha

theorem toBytes_decimal_eq_iff {d d' : Decimal} (ha : decimal.toBytes (.decimal d) = .ok a)
    (hb : decimal.toBytes (.decimal d') = .ok b) : a = b ↔
      (Value.decimal d).equals (.decimal d') = .ok true ∧ (Value.decimal d).WrittenAlike (.decimal d') := by
  rcases d with ⟨negative,c,e⟩ | negative | ⟨negative,signaling,payload⟩
  · rcases d' with ⟨negative',c',e'⟩ | negative' | ⟨negative',signaling',payload'⟩
    · have hholds := Value.holds_of_numbers (v := .decimal (.finite negative c e))
        (w := .decimal (.finite negative' c' e')) .eq rfl rfl rfl rfl
      rw [Value.equals_iff_of_holds hholds, compare_eq_iff_eq,
        ExtendedRat.strictMono_ofRat.injective.eq_iff, Decimal.toBytes_eq_iff ha hb, and_comm]
      exact and_congr_left fun h => (Decimal.number_eq_iff h.1 h.2).symm
    · cases hb
    · cases hb
  · cases ha
  · cases ha

/-- Only decimals are written in several ways. -/
theorem IsOwn.writtenAlike (hv : kind.IsOwn v) (hkind : kind ≠ .decimal) (w : Value) :
    v.WrittenAlike w := by
  cases v with
  | decimal d =>
    cases hv.admits with
    | bool =>
      obtain ⟨b,hb⟩ := hv.isTruth rfl
      cases hb
    | integer l h => cases h
    | decimal => exact absurd rfl hkind
  | _ => trivial

/-- Values of a kind that is stored by its layout have one layout exactly if they are equal and are
written alike. -/
theorem toBytes_eq_iff (hkind : kind.isBlobStored) (hv : kind.IsOwn v) (hw : kind.IsOwn w)
    (ha : kind.toBytes v = .ok a) (hb : kind.toBytes w = .ok b) :
    a = b ↔ v.equals w = .ok true ∧ v.WrittenAlike w := by
  cases hv.admits with
  | null => exact absurd rfl hv.ne_none
  | integer l => rw [toBytes_integer_eq_iff ha hb, and_iff_left (hv.writtenAlike nofun w)]
  | decimal d =>
    cases hw.admits with
    | null => exact absurd rfl hw.ne_none
    | decimal d' => exact toBytes_decimal_eq_iff ha hb
  | timestamp m =>
    cases hw.admits with
    | null => exact absurd rfl hw.ne_none
    | timestamp n => rw [toBytes_moment_eq_iff ha hb, and_iff_left (hv.writtenAlike nofun _)]
  | bytes bs => rw [toBytes_bytes_eq_iff ha hb, and_iff_left (hv.writtenAlike nofun w)]
  | buffer bs => rw [toBytes_bytes_eq_iff ha hb, and_iff_left (hv.writtenAlike nofun w)]
  | _ => cases hkind

end ValueKind
end SealedRows
