import Mathlib.Data.List.Perm.Basic
import Mathlib.Data.List.ReduceOption
import Mathlib.Data.List.SplitBy
import RecordingIndex.Database.Query

/-!
# Proofs — Database — groups of topics

Each group of topics is summed up over the messages that carry the number of one of them
(`exists_ofGroup?`): how many of these have a number of their own, and the first and the last of
their times.  A topic without messages adds nothing to the sums.
-/

namespace RecordingIndex.Database

variable {ms ms' : List MessageRecord} {ts group : List TopicRecord} {t : TopicRecord}
  {cells cells' : List Cell} {times : List (Option Int)} {op : Int → Int → Int}
  {R : Int → Int → Prop}

/-! ### Times -/

namespace Cell

/-- The integer in a cell. -/
def integer? : Cell → Option Int
  | .integer n => some n
  | _          => none

/-- The cell of an integer, a null if there is none. -/
def ofInteger? : Option Int → Cell
  | none   => .null
  | some n => .integer n

/-- A null or an integer. -/
def IsTime (c : Cell) : Prop := c = .null ∨ ∃ n, c = .integer n

theorem map_ofInteger?_integer? (h : ∀ c ∈ cells, c.IsTime) :
    (cells.map integer?).map ofInteger? = cells := by
  rw [List.map_map]
  refine (List.map_congr_left fun c hc => ?_).trans (List.map_id cells)
  obtain rfl | ⟨n, rfl⟩ := h c hc <;> rfl

theorem eq_of_integer? {c : Cell} {n : Int} (h : c.integer? = some n) : c = .integer n := by
  cases c with
  | integer k => rw [Option.some.inj h]
  | null | real | text | blob => cases h

end Cell

/-- All times taken together by an operation, if there are any. -/
def combined (op : Int → Int → Int) (times : List (Option Int)) : Option Int :=
  times.foldl (Option.merge op) none

theorem combined_concat (op : Int → Int → Int) (times : List (Option Int)) (x : Option Int) :
    combined op (times ++ [x]) = (combined op times).merge op x :=
  List.foldl_concat ..

theorem foldl_merge_some (op : Int → Int → Int) : ∀ (times : List (Option Int)) (n : Int),
    times.foldl (Option.merge op) (some n) = some (times.reduceOption.foldl op n)
  | [],              _ => rfl
  | none :: times,   n => foldl_merge_some op times n
  | some m :: times, n => foldl_merge_some op times (op n m)

theorem combined_eq (op : Int → Int → Int) : ∀ times : List (Option Int),
    combined op times =
      match times.reduceOption with
      | []      => none
      | n :: ns => some (ns.foldl op n)
  | []              => rfl
  | none :: times   => combined_eq op times
  | some n :: times => foldl_merge_some op times n

section

variable [Std.Associative op]

theorem foldl_merge : ∀ (times : List (Option Int)) (x : Option Int),
    times.foldl (Option.merge op) x = x.merge op (combined op times)
  | [],         x => (Std.LawfulRightIdentity.right_id x).symm
  | y :: times, x => by
      have hleft : (none : Option Int).merge op y = y := Std.LawfulLeftIdentity.left_id y
      calc (y :: times).foldl (Option.merge op) x
          = (x.merge op y).merge op (combined op times) := foldl_merge times _
        _ = x.merge op (y.merge op (combined op times)) := Std.Associative.assoc x y _
        _ = x.merge op (combined op (y :: times)) := by
            rw [combined, combined, List.foldl_cons, hleft, foldl_merge times y, combined]

theorem combined_append (times times' : List (Option Int)) :
    combined op (times ++ times') = (combined op times).merge op (combined op times') := by
  rw [combined, List.foldl_append, foldl_merge, ← combined]

/-- Times are taken together at once or part by part. -/
theorem combined_flatMap {α : Type} (f : α → List (Option Int)) (xs : List α) :
    combined op (xs.map fun x => combined op (f x)) = combined op (xs.flatMap f) := by
  induction xs using List.reverseRecOn with
  | nil => rfl
  | append_singleton xs x ih =>
      rw [List.map_append, List.map_singleton, combined_concat, ih, List.flatMap_append,
        List.flatMap_singleton, combined_append]

end

theorem combined_perm [Std.Associative op] [Std.Commutative op] {times' : List (Option Int)}
    (h : times.Perm times') : combined op times = combined op times' :=
  h.foldl_op_eq

/-- The operation chooses the one of two numbers that comes first in the order. -/
structure Chooses (op : Int → Int → Int) (R : Int → Int → Prop) : Prop where
  refl  : ∀ a, R a a
  trans : ∀ a b c, R a b → R b c → R a c
  cases : ∀ a b, (op a b = a ∧ R a b) ∨ (op a b = b ∧ R b a)

theorem chooses_min : Chooses min (· ≤ ·) where
  refl    := Int.le_refl
  trans _ _ _ := Int.le_trans
  cases a b   := by omega

theorem chooses_max : Chooses max (· ≥ ·) where
  refl    := Int.le_refl
  trans _ _ _ hab hbc := Int.le_trans hbc hab
  cases a b   := by omega

/-- The first of the times in the order, if there are any. -/
def IsFirst (R : Int → Int → Prop) (times : List (Option Int)) : Option Int → Prop
  | none   => ∀ n, some n ∉ times
  | some n => some n ∈ times ∧ ∀ k, some k ∈ times → R n k

theorem Chooses.isFirst (h : Chooses op R) (times : List (Option Int)) :
    IsFirst R times (combined op times) := by
  induction times using List.reverseRecOn with
  | nil => exact fun n => List.not_mem_nil
  | append_singleton times x ih =>
      rw [combined_concat]
      cases hfirst : combined op times with
      | none =>
          rw [hfirst] at ih
          cases x with
          | none => simpa [IsFirst] using ih
          | some k =>
              refine ⟨by simp, fun l hl => ?_⟩
              obtain rfl : l = k := by simpa [ih l] using hl
              exact h.refl l
      | some n =>
          rw [hfirst] at ih
          obtain ⟨hmem, hle⟩ := ih
          cases x with
          | none => exact ⟨by simpa using hmem, by simpa using hle⟩
          | some k =>
              simp only [Option.merge, IsFirst, List.mem_append, List.mem_singleton,
                Option.some.injEq]
              rcases h.cases n k with ⟨heq, hnk⟩ | ⟨heq, hkn⟩
              · rw [heq]
                refine ⟨.inl hmem, fun l hl => ?_⟩
                rcases hl with hl | rfl
                · exact hle l hl
                · exact hnk
              · rw [heq]
                refine ⟨.inr rfl, fun l hl => ?_⟩
                rcases hl with hl | rfl
                · exact h.trans k n l hkn (hle l hl)
                · exact h.refl l

/-! ### The least and the greatest cell -/

theorem present_ofInteger? : ∀ times : List (Option Int),
    present (times.map Cell.ofInteger?) = times.reduceOption.map .integer
  | []              => rfl
  | none :: times   => present_ofInteger? times
  | some n :: times => congrArg (Cell.integer n :: ·) (present_ofInteger? times)

theorem foldl_integer {choose : Cell → Cell → Cell}
    (h : ∀ a b, choose (.integer a) (.integer b) = .integer (op a b)) :
    ∀ (ns : List Int) (n : Int),
      (ns.map Cell.integer).foldl choose (.integer n) = .integer (ns.foldl op n)
  | [],      _ => rfl
  | m :: ns, n => by
      rw [List.map_cons, List.foldl_cons, h, foldl_integer h ns, List.foldl_cons]

/-- What is chosen from cells that are times is the time that all of them come to. -/
theorem foldl_present {choose : Cell → Cell → Cell}
    (h : ∀ a b, choose (.integer a) (.integer b) = .integer (op a b))
    (htimes : ∀ c ∈ cells, c.IsTime) :
    (match present cells with
      | []      => Cell.null
      | c :: cs => cs.foldl choose c) = Cell.ofInteger? (combined op (cells.map Cell.integer?)) := by
  rw [← Cell.map_ofInteger?_integer? htimes, present_ofInteger?,
    Cell.map_ofInteger?_integer? htimes, combined_eq]
  cases (cells.map Cell.integer?).reduceOption with
  | nil => rfl
  | cons n ns => exact foldl_integer h ns n

theorem least_of_times (h : ∀ c ∈ cells, c.IsTime) :
    least cells = Cell.ofInteger? (combined min (cells.map Cell.integer?)) := by
  refine foldl_present (fun a b => ?_) h
  simp only [Cell.compare, beq_iff_eq, Int.compare_eq_gt]
  split <;> congr 1 <;> omega

theorem greatest_of_times (h : ∀ c ∈ cells, c.IsTime) :
    greatest cells = Cell.ofInteger? (combined max (cells.map Cell.integer?)) := by
  refine foldl_present (fun a b => ?_) h
  simp only [Cell.compare, beq_iff_eq, Int.compare_eq_lt]
  split <;> congr 1 <;> omega

theorem least_congr (h : present cells = present cells') : least cells = least cells' := by
  rw [least, h, least]

theorem greatest_congr (h : present cells = present cells') : greatest cells = greatest cells' := by
  rw [greatest, h, greatest]

/-! ### The messages of a group -/

/-- The messages that carry the number of a topic. -/
def matching (ms : List MessageRecord) (t : TopicRecord) : List MessageRecord :=
  ms.filter fun m => m.topic.equal t.id

/-- The times of messages. -/
def timesOf (ms : List MessageRecord) : List (Option Int) := ms.map fun m => m.time.integer?

/-- A topic with the sums over messages. -/
def TopicRow.sum (t : TopicRecord) (ms : List MessageRecord) : TopicRow :=
  ⟨t.name, t.type, t.format, t.qos, ms.countP fun m => m.id ≠ .null,
    Cell.ofInteger? (combined min (timesOf ms)), Cell.ofInteger? (combined max (timesOf ms))⟩

theorem length_present (f : MessageRecord → Cell) (ms : List MessageRecord) :
    (present (ms.map f)).length = ms.countP fun m => f m ≠ .null := by
  rw [present, ← List.countP_eq_length_filter, List.countP_map]
  rfl

/-- A topic without messages stands in the join with nulls in their place. -/
theorem present_joined (f : MessageRecord → Cell) (ms : List MessageRecord) (t : TopicRecord) :
    present ((joined ms t).map fun r => (r.2.map f).getD .null) =
      present ((matching ms t).map f) := by
  rw [joined, matching]
  cases ms.filter fun m => m.topic.equal t.id with
  | nil => rfl
  | cons m ms => simp [Function.comp_def]

theorem present_append (cells cells' : List Cell) :
    present (cells ++ cells') = present cells ++ present cells' :=
  List.filter_append ..

theorem present_flatMap_joined (f : MessageRecord → Cell) (ms : List MessageRecord) :
    ∀ group : List TopicRecord,
      present ((group.flatMap (joined ms)).map fun r => (r.2.map f).getD .null) =
        present ((group.flatMap (matching ms)).map f)
  | []         => rfl
  | t :: group => by
      simp only [List.flatMap_cons, List.map_append, present_append]
      rw [present_joined, present_flatMap_joined f ms group]

theorem of_mem_joined {r : TopicRecord × Option MessageRecord} (h : r ∈ joined ms t) :
    r.1 = t ∧ ∀ m, r.2 = some m → m ∈ ms := by
  rw [joined] at h
  split at h
  · rw [List.mem_singleton.mp h]
    refine ⟨rfl, fun m hm => ?_⟩
    cases hm
  · next hmatching =>
      obtain ⟨m, hm, rfl⟩ := List.mem_map.mp h
      refine ⟨rfl, fun x hx => ?_⟩
      cases hx
      exact (List.mem_filter.mp (hmatching ▸ hm)).1

theorem joined_ne_nil (ms : List MessageRecord) (t : TopicRecord) : joined ms t ≠ [] := by
  rw [joined]
  split <;> simp

theorem isTime_timeOf {m : Option MessageRecord} (h : ∀ x, m = some x → x.time.IsTime) :
    (timeOf m).IsTime := by
  cases m with
  | none => exact .inl rfl
  | some x => exact h x rfl

/-- The topic of one of the rows is shown. -/
theorem exists_representative {rows : List (TopicRecord × Option MessageRecord)}
    (hrows : rows ≠ []) (htimes : ∀ r ∈ rows, (timeOf r.2).IsTime) :
    ∃ r ∈ rows, representative rows = some r.1 := by
  have hcells : ∀ c ∈ rows.map fun r => timeOf r.2, c.IsTime := by
    intro c hc
    obtain ⟨r, hr, rfl⟩ := List.mem_map.mp hc
    exact htimes r hr
  have hlast := chooses_max.isFirst ((rows.map fun r => timeOf r.2).map Cell.integer?)
  rw [representative, greatest_of_times hcells]
  cases hmax : combined max ((rows.map fun r => timeOf r.2).map Cell.integer?) with
  | none =>
      refine ⟨rows.getLast hrows, List.getLast_mem hrows, ?_⟩
      rw [List.getLast?_eq_some_getLast hrows]
      rfl
  | some n =>
      -- The greatest time is that of some row, so that a row is found.
      rw [hmax] at hlast
      obtain ⟨c, hc, hcn⟩ := List.mem_map.mp hlast.1
      obtain ⟨r, hr, rfl⟩ := List.mem_map.mp hc
      have htime : timeOf r.2 = .integer n := Cell.eq_of_integer? hcn
      have hfound : (rows.find? fun r => (timeOf r.2).compare (.integer n) == .eq).isSome := by
        rw [List.find?_isSome]
        exact ⟨r, hr, by rw [htime]; exact beq_iff_eq.mpr (Int.compare_eq_eq.mpr rfl)⟩
      obtain ⟨shown, hshown⟩ := Option.isSome_iff_exists.mp hfound
      refine ⟨shown, List.mem_of_find?_eq_some hshown, ?_⟩
      simp only [Cell.ofInteger?, reduceCtorEq, if_false, hshown, Option.map_some]

/-- **A group** is summed up over the messages of its topics, under one of them. -/
theorem exists_ofGroup? (hgroup : group ≠ []) (htimes : ∀ m ∈ ms, m.time.IsTime) :
    ∃ t ∈ group,
      TopicRow.ofGroup? ms group = some (.sum t (group.flatMap (matching ms))) := by
  have hrows : group.flatMap (joined ms) ≠ [] := by
    obtain ⟨t, rest, rfl⟩ := List.exists_cons_of_ne_nil hgroup
    simp [joined_ne_nil]
  have hrowTimes : ∀ r ∈ group.flatMap (joined ms), (timeOf r.2).IsTime := by
    intro r hr
    obtain ⟨t, -, hrt⟩ := List.mem_flatMap.mp hr
    exact isTime_timeOf fun m hm => htimes m ((of_mem_joined hrt).2 m hm)
  obtain ⟨r, hr, hshown⟩ := exists_representative hrows hrowTimes
  obtain ⟨t, ht, hrt⟩ := List.mem_flatMap.mp hr
  refine ⟨t, ht, ?_⟩
  have hmatching : ∀ c ∈ (group.flatMap (matching ms)).map MessageRecord.time, c.IsTime := by
    intro c hc
    obtain ⟨m, hm, rfl⟩ := List.mem_map.mp hc
    obtain ⟨s, -, hms⟩ := List.mem_flatMap.mp hm
    exact htimes m (List.mem_filter.mp hms).1
  -- The nulls of topics without messages are not counted and have no time.
  have hcells := present_flatMap_joined MessageRecord.time ms group
  have hleast := (least_congr hcells).trans (least_of_times hmatching)
  have hgreatest := (greatest_congr hcells).trans (greatest_of_times hmatching)
  rw [List.map_map] at hleast hgreatest
  rw [TopicRow.ofGroup?, hshown, (of_mem_joined hrt).1]
  simp only [Option.bind_eq_bind, Option.bind_some, Option.pure_def, TopicRow.sum, timeOf,
    present_flatMap_joined, length_present, hleast, hgreatest, timesOf]
  rfl

/-! ### All groups -/

theorem flatten_groups_perm (ts : List TopicRecord) : (groups ts).flatten.Perm ts := by
  rw [groups, List.flatten_splitBy]
  exact List.mergeSort_perm ..

theorem ne_nil_of_mem_groups (h : group ∈ groups ts) : group ≠ [] := by
  rintro rfl
  exact List.nil_notMem_splitBy _ _ h

end RecordingIndex.Database
