import SealedRows.Proofs.Reference.Pending

/-! # Resolution within a depth

Whatever is loaded was on the shelf and was not met before. So the records of the shelf that are still
to be met grow fewer with the depth, and a depth of as many as there are lets the resolution follow all
foreign keys.
-/
namespace SealedRows.Traversal

variable {catalog : Catalog} {schemas : List Schema} {shelf : Shelf} {start : Heap}
  {roots : List (RecordId × Schema)} {t t' : Traversal (List FetchCall)} {s u : Schema}
  {id : RecordId} {k : ForeignKey} {ks : List ForeignKey} {key : Value}
  {source : Source (List FetchCall)} {visit : RecordId → Schema → Step (List FetchCall) Unit}

theorem navigate_eq {σ : Type} {t : Traversal σ} {id : RecordId} {field : Text}
    {found : Option RecordId} :
    navigate id field found t = (.ok (),t.navigated id field found) := rfl

theorem note_eq (hkey : key.IsKey) (table : Text) :
    note table key id t = (.ok (),{ t with visited := t.visited.note table key id }) := by
  rw [note, if_pos hkey.isHashable]
  rfl

theorem enter_eq {c : Column} (hc : s.primaryKey = .ok c)
    (hkey : (t.heap.value id c.fieldName).IsKey ∨ t.heap.value id c.fieldName = .none) :
    enter id s t = (.ok (),t.entered id s) := by
  unfold enter entered
  rw [hc]
  dsimp only
  rw [get_bind]
  rcases hkey with hkey | hkey
  · have hsome := hkey.isNone_eq
    rw [hsome, if_neg Bool.false_ne_true, if_neg Bool.false_ne_true]
    exact note_eq hkey s.name
  · rw [hkey]
    rfl

theorem schemaFor_eq {σ : Type} {t : Traversal σ} {typeName : Text}
    (hs : (t.registry.schemaFor catalog typeName).1 = .ok u) :
    schemaFor catalog typeName t =
      (.ok u,{ t with registry := (t.registry.schemaFor catalog typeName).2 }) := by
  rw [schemaFor]
  dsimp only
  rw [hs]
  rfl

section Source
variable (hsource : source.fetch = shelf.source.fetch) {column : Text}
include hsource

theorem fetch_missing
    (hfind : shelf.find? u.record.name (Shelf.fieldOf u column) key = .ok none) :
    fetch source u column key t =
      (.ok none,{ t with source := t.source ++ [⟨u.name,column,key⟩] }) := by
  rw [fetch, hsource]
  dsimp only [Shelf.source]
  rw [hfind]

theorem fetch_found {r : Record}
    (hfind : shelf.find? u.record.name (Shelf.fieldOf u column) key = .ok (some r)) :
    fetch source u column key t = (.ok (some t.heap.length),
      { t with heap := t.heap ++ [r], source := t.source ++ [⟨u.name,column,key⟩] }) := by
  rw [fetch, hsource]
  dsimp only [Shelf.source]
  rw [hfind]
  rfl

end Source

section Load
variable (hkey : key.IsKey)
include hkey

theorem load_met {found : RecordId} (hmet : t.visited.find? k.referencedTable key = some found) :
    load catalog source visit id k key t = (.ok (),t.navigated id k.navigationField (some found)) := by
  unfold load
  rw [hkey.isHashable, Bool.not_true, if_neg Bool.false_ne_true]
  refine (get_bind _ t).trans ?_
  rw [hmet]
  rfl

variable (hsource : source.fetch = shelf.source.fetch)
  (hnew : t.visited.find? k.referencedTable key = none)
  (hs : (t.registry.schemaFor catalog k.referencedType).1 = .ok u)
include hsource hnew hs

theorem load_missing
    (hfind : shelf.find? u.record.name (Shelf.fieldOf u k.referencedColumn) key = .ok none) :
    load catalog source visit id k key t =
      (.ok (),(t.asked catalog k u key).navigated id k.navigationField none) := by
  unfold load
  rw [hkey.isHashable, Bool.not_true, if_neg Bool.false_ne_true]
  refine (get_bind _ t).trans ?_
  rw [hnew]
  dsimp only
  rw [bind_of_ok (schemaFor_eq hs), bind_of_ok (fetch_missing hsource hfind)]
  rfl

theorem load_loaded {r : Record}
    (hfind : shelf.find? u.record.name (Shelf.fieldOf u k.referencedColumn) key = .ok (some r)) :
    load catalog source visit id k key t =
      visit t.heap.length u ((t.asked catalog k u key).received id k key r) := by
  unfold load
  rw [hkey.isHashable, Bool.not_true, if_neg Bool.false_ne_true]
  refine (get_bind _ t).trans ?_
  rw [hnew]
  dsimp only
  rw [bind_of_ok (schemaFor_eq hs), bind_of_ok (fetch_found hsource hfind)]
  refine (bind_of_ok navigate_eq).trans ?_
  refine (bind_of_ok (note_eq hkey k.referencedTable)).trans ?_
  rfl

end Load

theorem follow_skip (hskip : ¬(k.autoResolve ∧ t.heap.value id k.fieldName ≠ .none)) :
    follow catalog source visit id (k :: ks) t = follow catalog source visit id ks t := by
  have hcondition : (k.autoResolve && !(t.heap.value id k.fieldName).isNone) = false := by
    rw [Bool.and_eq_false_iff]
    refine (not_and_or.mp hskip).imp Bool.eq_false_iff.mpr fun hnone => ?_
    rw [not_not.mp hnone]
    rfl
  rw [follow]
  refine (get_bind _ t).trans ?_
  dsimp only
  rw [hcondition]
  rfl

theorem follow_load (hkey : k.autoResolve ∧ (t.heap.value id k.fieldName).IsKey)
    (hload : load catalog source visit id k (t.heap.value id k.fieldName) t = (.ok (),t')) :
    follow catalog source visit id (k :: ks) t = follow catalog source visit id ks t' := by
  rw [follow]
  refine (get_bind _ t).trans ?_
  dsimp only
  rw [hkey.1, hkey.2.isNone_eq, Bool.not_false, Bool.and_self, if_pos rfl]
  exact bind_of_ok hload

def unmet (schemas : List Schema) (shelf : Shelf) (visited : Visited) : Nat :=
  shelf.countP fun r => schemas.any fun s =>
    r.type.name = s.record.name && (visited.find? s.name (r.primary s)).isNone

theorem unmet_le (schemas : List Schema) (shelf : Shelf) {visited later : Visited}
    (h : visited <+: later) :
    unmet schemas shelf later ≤ unmet schemas shelf visited := by
  refine List.countP_mono_left fun r _ hr => ?_
  obtain ⟨s,hs,hunmet⟩ := List.any_eq_true.mp hr
  rw [Bool.and_eq_true, Option.isNone_iff_eq_none] at hunmet
  refine List.any_eq_true.mpr ⟨s,hs,?_⟩
  rw [Visited.eq_none_of_later h hunmet.2, hunmet.1]
  rfl

theorem unmet_lt (hschemas : Navigable catalog schemas) {visited later : Visited}
    (h : visited <+: later) (hu : u ∈ schemas) {r : Record} (hr : r ∈ shelf) (hof : r.IsOf u)
    (hnew : visited.find? u.name (r.primary u) = none)
    (hmet : (later.find? u.name (r.primary u)).isSome) :
    unmet schemas shelf later < unmet schemas shelf visited := by
  obtain ⟨before,after,rfl⟩ := List.append_of_mem hr
  have hbefore := unmet_le schemas before h
  have hafter := unmet_le schemas after h
  unfold unmet at hbefore hafter ⊢
  rw [List.countP_append, List.countP_append, List.countP_cons_of_neg, List.countP_cons_of_pos]
  · exact Nat.add_lt_add_of_le_of_lt hbefore (Nat.lt_succ_of_le hafter)
  · have htype : r.type.name = u.record.name := hof
    refine List.any_eq_true.mpr ⟨u,hu,?_⟩
    rw [hnew, decide_eq_true htype]
    rfl
  · intro hany
    obtain ⟨s,hs,hunmet⟩ := List.any_eq_true.mp hany
    rw [Bool.and_eq_true, decide_eq_true_eq, Option.isNone_iff_eq_none] at hunmet
    cases hschemas.eq_of_type hu hs (hof.symm.trans hunmet.1)
    rw [hunmet.2] at hmet
    cases hmet

/-- A new record was on the shelf and is met now. -/
theorem unmet_loaded (hpending : Pending catalog schemas shelf start roots t s id (k :: ks))
    (hvalue : t.heap.value id k.fieldName = key) (hkey : k.autoResolve ∧ key ≠ .none)
    (hnew : t.visited.find? k.referencedTable key = none)
    (hs : (t.registry.schemaFor catalog k.referencedType).1 = .ok u) {r : Record}
    (hfind : shelf.find? u.record.name (Shelf.fieldOf u k.referencedColumn) key = .ok (some r)) :
    unmet schemas shelf
      (((t.asked catalog k u key).received id k key r).entered t.heap.length u).visited <
        unmet schemas shelf t.visited := by
  obtain ⟨hisKey,hu,_,hfound⟩ := hpending.searched hvalue hkey hs hfind
  obtain ⟨hr,hof,hprimary⟩ := hfound r rfl
  have hinvariant := (hpending.loaded hvalue hkey hnew hs hfind).invariant
  have hkeyed := hpending.keyed r hr u hu.mem hof
  have hprimaryKey := hkeyed.isKey_primary hisKey hprimary
  have hnoted := visited_entered ((t.asked catalog k u key).received id k key r) t.heap.length u
  refine unmet_lt hpending.navigable (Visited.prefix_note.trans hnoted) hu.mem hr hof ?_ ?_
  · rw [Visited.find?_congr (fun _ => hpending.invariant.isKey_of_mem) hprimaryKey hisKey hprimary,
      hu.table_eq]
    exact hnew
  · rw [Visited.find?_congr (fun _ => hinvariant.isKey_of_mem) hprimaryKey hisKey hprimary, hu.table_eq]
    exact Visited.isSome_mono hnoted (Visited.find?_note_isSome hisKey.isSameKey_self)

section Depth
variable (hsource : source.fetch = shelf.source.fetch)
include hsource

/-- Foreign keys are followed if the depth pays for what is still to be met. -/
theorem follow_eq {depth : Nat}
    (hvisit : ∀ (t : Traversal (List FetchCall)) (s : Schema) (id : RecordId),
      Pending catalog schemas shelf start roots (t.entered id s) s id s.foreignKeys →
      unmet schemas shelf (t.entered id s).visited < depth →
      ∃ t', Follows catalog shelf (t.entered id s) id s.foreignKeys t' ∧
        Traversal.visit catalog source depth id s t = (.ok (),t'))
    (hpending : Pending catalog schemas shelf start roots t s id ks)
    (hdepth : unmet schemas shelf t.visited ≤ depth) :
    ∃ t', Follows catalog shelf t id ks t' ∧
      follow catalog source (Traversal.visit catalog source depth) id ks t = (.ok (),t') := by
  induction ks generalizing t with
  | nil => exact ⟨t,.nil t id,rfl⟩
  | cons k ks ih =>
    by_cases hkey : k.autoResolve ∧ t.heap.value id k.fieldName ≠ .none
    · have hisKey := hpending.isKey hkey
      cases hmet : t.visited.find? k.referencedTable (t.heap.value id k.fieldName) with
      | some found =>
        obtain ⟨t',hfollows,hfollow⟩ := ih (hpending.navigated hkey.1 (some found)) hdepth
        refine ⟨t',.met hkey hmet hfollows,?_⟩
        rw [follow_load ⟨hkey.1,hisKey⟩ (load_met hisKey hmet), hfollow]
      | none =>
        obtain ⟨u,hu⟩ := hpending.target
        rcases hu.find?_cases hpending.keyed hisKey with ⟨_,hfind⟩ | ⟨r,hr,hof,hprimary,hfind⟩
        · obtain ⟨t',hfollows,hfollow⟩ := ih (hpending.missing rfl hkey hu.schemaFor_eq hfind) hdepth
          refine ⟨t',.missing rfl hkey hmet hu.schemaFor_eq hfind hfollows,?_⟩
          rw [follow_load ⟨hkey.1,hisKey⟩
            (load_missing hisKey hsource hmet hu.schemaFor_eq hfind), hfollow]
        -- Visiting the new record takes one from the depth, and so does meeting it.
        · have hloaded := hpending.loaded rfl hkey hmet hu.schemaFor_eq hfind
          have hfewer := unmet_loaded hpending rfl hkey hmet hu.schemaFor_eq hfind
          obtain ⟨middle,hvisited,hrun⟩ :=
            hvisit _ u t.heap.length hloaded (hfewer.trans_le hdepth)
          have hextends : Extends id (k :: ks) t middle := extends_loaded hvisited.extends
          have hrest := hpending.rest hextends (hvisited.invariant hloaded)
          have hpaid := (unmet_le schemas shelf hextends.visited).trans hdepth
          obtain ⟨t',hfollows,hfollow⟩ := ih hrest hpaid
          refine ⟨t',.loaded rfl hkey hmet hu.schemaFor_eq hfind hvisited hfollows,?_⟩
          rw [follow_load ⟨hkey.1,hisKey⟩
            ((load_loaded hisKey hsource hmet hu.schemaFor_eq hfind).trans hrun), hfollow]
    · obtain ⟨t',hfollows,hfollow⟩ := ih hpending.skip hdepth
      exact ⟨t',.skip hkey hfollows,by rw [follow_skip hkey, hfollow]⟩

theorem visit_eq (depth : Nat) (t : Traversal (List FetchCall)) (s : Schema) (id : RecordId)
    (hpending : Pending catalog schemas shelf start roots (t.entered id s) s id s.foreignKeys)
    (hdepth : unmet schemas shelf (t.entered id s).visited < depth) :
    ∃ t', Follows catalog shelf (t.entered id s) id s.foreignKeys t' ∧
      Traversal.visit catalog source depth id s t = (.ok (),t') := by
  induction depth generalizing t s id with
  | zero => exact absurd hdepth (Nat.not_lt_zero _)
  | succ depth ih =>
    obtain ⟨t',hfollows,hfollow⟩ := follow_eq hsource ih hpending (Nat.le_of_lt_succ hdepth)
    obtain ⟨c,hc,hprimary⟩ := hpending.navigable.primaryKey hpending.schema
    obtain ⟨r,hr,_,hkeyed⟩ := hpending.record
    rw [entered_heap] at hr
    refine ⟨t',hfollows,?_⟩
    rw [Traversal.visit, bind_of_ok (enter_eq hprimary ?_), hfollow]
    rw [hkeyed.heap_primary hr hprimary]
    exact hkeyed.primary

end Depth

end SealedRows.Traversal
