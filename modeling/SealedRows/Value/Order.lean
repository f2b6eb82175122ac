import SealedRows.Value.Equality

/-! # Order of values

Numbers are ordered as numbers, texts by code points, byte strings by bytes, and moments in time if
both are instants or neither is. Of two lists the order is that of the first values that differ, and
a list is above those that it begins with. Missing numbers are neither below nor above any other.
-/
namespace SealedRows

/-- The order of two decimals that are numbers, by the places of their first digits before all
else. -/
def Decimal.order? : Decimal → Decimal → Option Ordering
  | nan .., _ | _, nan .. => none
  | infinite n, infinite n' => some (compare n' n)
  | infinite n, _ => some (if n then .lt else .gt)
  | _, infinite n' => some (if n' then .gt else .lt)
  | finite n c e, finite n' c' e' =>
    let negative := n && c ≠ 0
    let negative' := n' && c' ≠ 0
    let magnitudes :=
      if c = 0 ∨ c' = 0 then compare c c'
      else
        let top := e + (Text.digits c).length
        let top' := e' + (Text.digits c').length
        (compare top top').then
          (compare (c * 10 ^ (e - e').toNat) (c' * 10 ^ (e' - e).toNat))
    if negative && negative' then some magnitudes.swap
    else if negative then some .lt
    else if negative' then some .gt
    else some magnitudes

namespace Value

/-- The order of two values that hold no other values, if one is below or above the other or both are
equal. -/
def orderLeaf (v w : Value) : Except ValueFault (Option Ordering) :=
  match v.number?, w.number? with
  | some a, some b =>
    match v, w, a.order? b with
    | decimal _, _, Option.none | _, decimal _, Option.none => .error (.general .invalidDecimal)
    | _, _, o => .ok o
  | _, _ =>
    match v.bytes?, w.bytes? with
    | some a, some b => .ok (some (compare a b))
    | _, _ =>
      match v, w with
      | text a, text b => .ok (some (compare a b))
      | moment a, moment b =>
        if a.offset.isSome = b.offset.isSome then .ok (some (compare a.instant b.instant))
        else .error (.general .wrongType)
      | _, _ => .error (.general .wrongType)

mutual

/-- The order of two values, if one is below or above the other or both are equal. -/
def order : Value → Value → Except ValueFault (Option Ordering)
  | list vs, list ws => orderEach vs ws
  | tuple vs, tuple ws => orderEach vs ws
  | v, w => orderLeaf v w

def orderEach : List Value → List Value → Except ValueFault (Option Ordering)
  | [], [] => .ok (some .eq)
  | [], _ :: _ => .ok (some .lt)
  | _ :: _, [] => .ok (some .gt)
  | v :: vs, w :: ws => do if ← equals v w then orderEach vs ws else order v w

end

end Value

def Operator.holds (op : Operator) (v w : Value) : Except ValueFault Bool :=
  match op with
  | eq => v.equals w
  | ne => (v.equals w).map not
  | lt => (v.order w).map (· == some .lt)
  | le => (v.order w).map fun o => o == some .lt || o == some .eq
  | gt => (v.order w).map (· == some .gt)
  | ge => (v.order w).map fun o => o == some .gt || o == some .eq

end SealedRows
