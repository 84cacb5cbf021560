import Mathlib.Order.Bounds.Basic
import RecordingIndex.Proofs.Database.Counts

/-!
# Proofs — Database — the time range of a segment

The time range of a segment is that of its *recorded times* (`IsRecorded`), those of the messages
that have a topic.  It begins with the first, or with zero if that is negative, and lasts to the last
(`spans_tells`).  Messages without a topic do not matter to it.
-/

namespace RecordingIndex.Database

variable {fs : FileSystem} {path : Path} {topics messages : Table} {size : Nat} {m : Metadata}
  {ts : List TimedTopic}

/-! ### Recorded times -/

/-- Some message with a topic has the time. -/
def IsRecorded (topics messages : Table) (time : Int) : Prop :=
  ∃ message ∈ messages.rows, hasTopic topics messages message ∧
    messages.cell "timestamp" message = .integer time

/-- The description's time range is that of the times `T`: it begins with the least of them, clamped
at zero, and lasts to the greatest, as far as a signed number can tell. -/
structure Spans (T : Set Int) (m : Metadata) : Prop where
  empty  : T = ∅ → m.startingTime = 0 ∧ m.duration = 0
  bounds : T.Nonempty → ∃ first last, IsLeast T first ∧ IsGreatest T last ∧
             (m.startingTime.toNat : Int) = max 0 first ∧
             (m.duration.toNat : Int) = min maxSigned (last - first)
  ending : m.startingTime.toNat + m.duration.toNat < UInt64.size ∧
             m.endingTime.toNat = m.startingTime.toNat + m.duration.toNat
  inside : T.Nonempty → (∀ t ∈ T, 0 ≤ t) →
             IsLeast T m.startingTime.toNat ∧ IsGreatest T m.endingTime.toNat

/-! ### The answer's times -/

theorem earlier_eq : earlier = Option.merge min := by
  funext a b
  cases a <;> cases b <;> rfl

theorem later_eq : later = Option.merge max := by
  funext a b
  cases a <;> cases b <;> rfl

theorem times_of_ofRow {r : TopicRow} {t : TimedTopic} (h : TimedTopic.ofRow r = .ok t) :
    numberOf 5 "MIN(m.timestamp)" r.earliest = .ok t.earliest ∧
      numberOf 6 "MAX(m.timestamp)" r.latest = .ok t.latest := by
  rw [TimedTopic.ofRow] at h
  obtain ⟨name, -, h⟩ := exists_of_bind h
  obtain ⟨type, -, h⟩ := exists_of_bind h
  obtain ⟨format, -, h⟩ := exists_of_bind h
  obtain ⟨qos, -, h⟩ := exists_of_bind h
  obtain ⟨earliest, hearliest, h⟩ := exists_of_bind h
  obtain ⟨latest, hlatest, h⟩ := exists_of_bind h
  cases h
  exact ⟨hearliest, hlatest⟩

theorem StandsFor.times {ms : List MessageRecord} {group : List TopicRecord} {t : TimedTopic}
    (h : StandsFor ms group t) :
    t.earliest = combined min (timesOf (group.flatMap (matching ms))) ∧
      t.latest = combined max (timesOf (group.flatMap (matching ms))) := by
  obtain ⟨shown, -, hrow⟩ := h
  obtain ⟨hearliest, hlatest⟩ := times_of_ofRow hrow
  rw [TopicRow.sum, numberOf_ofInteger?] at hearliest hlatest
  exact ⟨(Except.ok.inj hearliest).symm, (Except.ok.inj hlatest).symm⟩

/-- The times of the messages of all groups are those recorded. -/
theorem some_mem_times_iff {time : Int} :
    some time ∈ (groups (topics.rows.map topics.topicRecord)).flatMap (fun group =>
        timesOf (group.flatMap (matching (messages.rows.map messages.messageRecord)))) ↔
      IsRecorded topics messages time := by
  have hgroups := flatten_groups_perm (topics.rows.map topics.topicRecord)
  simp only [timesOf, List.mem_flatMap, List.mem_map, matching, List.mem_filter]
  constructor
  · rintro ⟨group, hgroup, m, ⟨t, ht, ⟨message, hmessage, rfl⟩, hequal⟩, htime⟩
    obtain ⟨topic, htopic, rfl⟩ :=
      List.mem_map.mp (hgroups.mem_iff.mp (List.mem_flatten.mpr ⟨group, hgroup, ht⟩))
    refine ⟨message, hmessage, ?_, Cell.eq_of_integer? htime⟩
    exact List.any_eq_true.mpr ⟨topic, htopic, hequal⟩
  · rintro ⟨message, hmessage, hany, htime⟩
    obtain ⟨topic, htopic, hequal⟩ := List.any_eq_true.mp hany
    obtain ⟨group, hgroup, ht⟩ :=
      List.mem_flatten.mp (hgroups.mem_iff.mpr (List.mem_map_of_mem htopic))
    exact ⟨group, hgroup, _, ⟨_, ht, ⟨message, hmessage, rfl⟩, hequal⟩,
      congrArg Cell.integer? htime⟩

/-- **The answer's times** taken together are the first and the last of the recorded times. -/
theorem exists_times_of_answer (h : answer topics messages = .ok ts)
    (htimes : ∀ message ∈ messages.rows, (messages.cell "timestamp" message).IsTime) :
    ∃ times, (∀ time, some time ∈ times ↔ IsRecorded topics messages time) ∧
      (ts.map TimedTopic.earliest).foldl earlier none = combined min times ∧
      (ts.map TimedTopic.latest).foldl later none = combined max times := by
  have hsums := standsFor_of_answer h htimes
  refine ⟨_, fun time => some_mem_times_iff, ?_, ?_⟩
  · rw [map_eq_of_forall₂ hsums fun _ _ hstands => hstands.times.1, earlier_eq]
    exact combined_flatMap _ _
  · rw [map_eq_of_forall₂ hsums fun _ _ hstands => hstands.times.2, later_eq]
    exact combined_flatMap _ _

/-! ### The time range -/

theorem toNat_clamp_of_le {n : Int} (h : n ≤ maxSigned) : ((clamp n).toNat : Int) = max 0 n := by
  have hmax : maxSigned = 9223372036854775807 := by decide
  rw [clamp, UInt64.toNat_ofNat']
  omega

/-- Times have a first and a last, unless there are none. -/
theorem bounds_of_times {times : List (Option Int)} {T : Set Int}
    (hT : ∀ time, some time ∈ times ↔ time ∈ T) :
    (T = ∅ ∧ combined min times = none ∧ combined max times = none) ∨
      ∃ first last, IsLeast T first ∧ IsGreatest T last ∧
        combined min times = some first ∧ combined max times = some last := by
  have hmin := chooses_min.isFirst times
  have hmax := chooses_max.isFirst times
  cases hfirst : combined min times with
  | none =>
      rw [hfirst] at hmin
      have hempty : T = ∅ := Set.eq_empty_of_forall_notMem fun time h => hmin time ((hT time).mpr h)
      cases hlast : combined max times with
      | none => exact .inl ⟨hempty, rfl, rfl⟩
      | some last =>
          rw [hlast] at hmax
          exact absurd hmax.1 (hmin last)
  | some first =>
      rw [hfirst] at hmin
      cases hlast : combined max times with
      | none =>
          rw [hlast] at hmax
          exact absurd hmin.1 (hmax first)
      | some last =>
          rw [hlast] at hmax
          refine .inr ⟨first, last, ⟨(hT _).mp hmin.1, fun time h => ?_⟩,
            ⟨(hT _).mp hmax.1, fun time h => ?_⟩, rfl, rfl⟩
          · exact hmin.2 time ((hT time).mpr h)
          · exact hmax.2 time ((hT time).mpr h)

theorem Spans.of_empty (hstart : m.startingTime = 0) (hduration : m.duration = 0) : Spans ∅ m := by
  have hending := toNat_saturatingAdd m.startingTime m.duration
  rw [← Metadata.endingTime, hstart, hduration] at hending
  refine ⟨fun _ => ⟨hstart, hduration⟩, fun h => absurd rfl h.ne_empty, ?_,
    fun h => absurd rfl h.ne_empty⟩
  rw [hending, hstart, hduration]
  exact ⟨by decide, by decide⟩

theorem Spans.of_bounds {T : Set Int} {first last : Int} (hleast : IsLeast T first)
    (hgreatest : IsGreatest T last) (hlast : last ≤ maxSigned)
    (hstart : (m.startingTime.toNat : Int) = max 0 first)
    (hduration : (m.duration.toNat : Int) = min maxSigned (last - first)) : Spans T m := by
  have hmax : maxSigned = 9223372036854775807 := by decide
  have hsize : UInt64.size = 18446744073709551616 := rfl
  have hle : first ≤ last := hleast.2 hgreatest.1
  -- Both summands are signed numbers, so that the sum is not clamped.
  have hending := toNat_saturatingAdd m.startingTime m.duration
  rw [← Metadata.endingTime] at hending
  refine ⟨fun h => absurd hleast.1 (h ▸ Set.notMem_empty first),
    fun _ => ⟨first, last, hleast, hgreatest, hstart, hduration⟩, ⟨by omega, by omega⟩,
    fun _ hnonneg => ?_⟩
  have hzero := hnonneg first hleast.1
  have hfirst : (m.startingTime.toNat : Int) = first := by omega
  have hlast : (m.endingTime.toNat : Int) = last := by omega
  rw [hfirst, hlast]
  exact ⟨hleast, hgreatest⟩

/-- A description spans the times that its time range is made of. -/
theorem spans_describe {times : List (Option Int)} {T : Set Int} (path : Path) (size : UInt64)
    (hT : ∀ time, some time ∈ times ↔ time ∈ T)
    (hearliest : (ts.map TimedTopic.earliest).foldl earlier none = combined min times)
    (hlatest : (ts.map TimedTopic.latest).foldl later none = combined max times)
    (hrange : ∀ time ∈ T, time ≤ maxSigned) : Spans T (describe ts path size) := by
  have hstart : (describe ts path size).startingTime =
      (timeRange (combined min times) (combined max times)).1 := by
    rw [← hearliest, ← hlatest]
    rfl
  have hduration : (describe ts path size).duration =
      (timeRange (combined min times) (combined max times)).2 := by
    rw [← hearliest, ← hlatest]
    rfl
  rcases bounds_of_times hT with ⟨rfl, hmin, hmax⟩ | ⟨first, last, hfirst, hlast, hmin, hmax⟩
  · rw [hmin, hmax] at hstart hduration
    exact .of_empty hstart hduration
  · have hle : first ≤ last := hfirst.2 hlast.1
    rw [hmin, hmax, timeRange] at hstart hduration
    refine .of_bounds hfirst hlast (hrange last hlast.1) ?_ ?_
    · rw [hstart]
      exact toNat_clamp_of_le (hrange first hfirst.1)
    · have hpos : 0 ≤ maxSigned := by decide
      rw [hduration, toNat_clamp_of_le (by omega)]
      omega

theorem exists_answer_of_tells (hseg : IsSegment fs path topics messages size)
    (h : backend.tells fs path = .ok m) :
    ∃ ts, answer topics messages = .ok ts ∧ m = describe ts path (UInt64.ofNat size) := by
  rw [tells_eq hseg] at h
  cases hanswer : answer topics messages with
  | error reason => rw [hanswer] at h; cases h
  | ok ts =>
      rw [hanswer] at h
      exact ⟨ts, rfl, (Except.ok.inj h).symm⟩

/-- **The time range of a segment** is that of the recorded times.  Messages without a topic do not
matter to it. -/
theorem spans_tells (hseg : IsSegment fs path topics messages size)
    (htimes : ∀ message ∈ messages.rows, messages.cell "timestamp" message = .null ∨
      ∃ time : Int64, messages.cell "timestamp" message = .integer time.toInt)
    (h : backend.tells fs path = .ok m) :
    Spans {time | IsRecorded topics messages time} m ∧
      ∀ fs' rows size', IsSegment fs' path topics { messages with rows := rows } size' →
        rows.filter (hasTopic topics messages) = messages.rows.filter (hasTopic topics messages) →
        backend.tells fs' path = .ok { m with bagSize := UInt64.ofNat size' } := by
  obtain ⟨ts, hanswer, rfl⟩ := exists_answer_of_tells hseg h
  constructor
  · have hcells : ∀ message ∈ messages.rows, (messages.cell "timestamp" message).IsTime :=
      fun message hmessage => (htimes message hmessage).imp_right fun ⟨time, htime⟩ => ⟨_, htime⟩
    obtain ⟨times, hmem, hearliest, hlatest⟩ := exists_times_of_answer hanswer hcells
    refine spans_describe path _ hmem hearliest hlatest ?_
    rintro time ⟨message, hmessage, -, htime⟩
    rcases htimes message hmessage with hnull | ⟨n, hn⟩
    · rw [hnull] at htime
      cases htime
    · rw [hn] at htime
      cases htime
      exact n.toInt_le
  · intro fs' rows size' hseg' hrows
    obtain ⟨answered, hrowsAnswer, -⟩ := exists_of_bind hanswer
    obtain ⟨x, hx, -⟩ := exists_of_bind hrowsAnswer
    rw [tells_eq hseg', answer_eq_of_filter (hasColumns_of_records hx) hrows, hanswer]
    rfl

theorem spans_tells_sample :
    IsSegment Sample.segment (.ofString "/s_0.db3") Sample.topicTable Sample.messageTable 8192 ∧
      (∀ message ∈ Sample.messageTable.rows,
        Sample.messageTable.cell "timestamp" message = .null ∨
          ∃ time : Int64, Sample.messageTable.cell "timestamp" message = .integer time.toInt) ∧
      ∃ m, backend.tells Sample.segment (.ofString "/s_0.db3") = .ok m ∧
        Spans {time | IsRecorded Sample.topicTable Sample.messageTable time} m := by
  have htimes : ∀ message ∈ Sample.messageTable.rows,
      Sample.messageTable.cell "timestamp" message = .null ∨
        ∃ time : Int64, Sample.messageTable.cell "timestamp" message = .integer time.toInt := by
    have hcolumn : Sample.messageTable.column? "timestamp" = some 2 := by decide +kernel
    rw [Table.cell_eq hcolumn]
    simp only [Sample.messageTable, List.forall_mem_cons]
    exact ⟨.inr ⟨30, rfl⟩, .inr ⟨-5, rfl⟩, .inl rfl, .inr ⟨90, rfl⟩, List.forall_mem_nil _⟩
  have htells := tells_eq Sample.isSegment_segment
  rw [Sample.isTyped_tables.answer_eq] at htells
  exact ⟨Sample.isSegment_segment, htimes, _, htells,
    (spans_tells Sample.isSegment_segment htimes htells).1⟩

end RecordingIndex.Database
