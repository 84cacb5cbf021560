import Mathlib.Data.List.Nodup
import RecordingIndex.Json.Reader
import RecordingIndex.Proofs.Except

/-!
# Proofs — Json — what a record says

`Members` is the grammar of the members of a map, and `Elements` that of the fields in a list.  A
document says one thing as a record (`Says.unique`), and that is what reading it gives
(`says_of_record`), with no field twice (`nodup_of_record`).
-/

namespace RecordingIndex.Json

variable {fields fs : List Field} {f : Field} {name key : String} {first : Bool}
  {s : Option String} {t : Token} {ts us rest rest' : List Token} {given given' ms ms' : Fields}

/-! ### Grammar -/

/-- The token stands for the text of a field, or for nothing where the field allows it. -/
inductive Fills (f : Field) : Token → Option String → Prop where
  | text (s : String) : Fills f (.text (some s)) (some s)
  | nothing (optional : f.isOptional = true) : Fills f .null none

/-- A member of a map: what it says of the fields, and what follows it.  The value of an unknown key
is passed over. -/
inductive Member (fields : List Field) : List Token → Fields → List Token → Prop where
  | known {key : String} {f : Field} {t : Token} {s : Option String} {rest : List Token}
      (found : fields.find? (·.name = key) = some f) (fills : Fills f t s) :
      Member fields (.text (some key) :: .colon :: t :: rest) [(key, s)] rest
  | unknown {key : String} {ts rest : List Token}
      (found : fields.find? (·.name = key) = none) (skipped : skip [] .value ts = .ok rest) :
      Member fields (.text (some key) :: .colon :: ts) [] rest

/-- The members of a map to its end: what they say of the fields, and what follows the map. -/
inductive Members (fields : List Field) :
    (first : Bool) → List Token → Fields → List Token → Prop where
  | done {first : Bool} {rest : List Token} : Members fields first (.closeMap :: rest) [] rest
  | first {ts us rest : List Token} {given ms : Fields}
      (member : Member fields ts given us) (more : Members fields false us ms rest) :
      Members fields true ts (given ++ ms) rest
  | next {ts us rest : List Token} {given ms : Fields}
      (member : Member fields ts given us) (more : Members fields false us ms rest) :
      Members fields false (.comma :: ts) (given ++ ms) rest

/-- The fields in a list, in their order, to its end; the last ones may be left out. -/
inductive Elements : List Field → (first : Bool) → List Token → Fields → List Token → Prop where
  | done {fs : List Field} {first : Bool} {rest : List Token} :
      Elements fs first (.closeList :: rest) [] rest
  | first {f : Field} {fs : List Field} {t : Token} {s : Option String} {ts rest : List Token}
      {ms : Fields} (fills : Fills f t s) (more : Elements fs false ts ms rest) :
      Elements (f :: fs) true (t :: ts) ((f.name, s) :: ms) rest
  | next {f : Field} {fs : List Field} {t : Token} {s : Option String} {ts rest : List Token}
      {ms : Fields} (fills : Fills f t s) (more : Elements fs false ts ms rest) :
      Elements (f :: fs) false (.comma :: t :: ts) ((f.name, s) :: ms) rest

/-- What a document says as a record of these fields. -/
inductive Says (fields : List Field) (text : String) : Fields → Prop where
  | map {ts : List Token} {ms : Fields}
      (tokens : Token.lex text.toList = .openMap :: ts) (members : Members fields true ts ms []) :
      Says fields text ms
  | list {ts : List Token} {ms : Fields}
      (tokens : Token.lex text.toList = .openList :: ts)
      (elements : Elements fields true ts ms []) : Says fields text ms

/-! ### One reading -/

theorem Fills.unique {s' : Option String} (h : Fills f t s) (h' : Fills f t s') : s = s' := by
  cases h <;> cases h' <;> rfl

theorem Member.unique (h : Member fields ts given rest) (h' : Member fields ts given' rest') :
    given = given' ∧ rest = rest' := by
  cases h with
  | known found fills =>
      cases h' with
      | known found' fills' =>
          obtain rfl := Option.some.inj (found.symm.trans found')
          exact ⟨by rw [fills.unique fills'], rfl⟩
      | unknown found' => cases found.symm.trans found'
  | unknown found skipped =>
      cases h' with
      | known found' => cases found.symm.trans found'
      | unknown _ skipped' => exact ⟨rfl, Except.ok.inj (skipped.symm.trans skipped')⟩

theorem Members.unique (h : Members fields first ts ms rest) :
    ∀ {ms' : Fields} {rest' : List Token}, Members fields first ts ms' rest' →
      ms = ms' ∧ rest = rest' := by
  induction h with
  | done =>
      intro ms' rest' h'
      cases h' with
      | done => exact ⟨rfl, rfl⟩
      | first member => cases member
  | first member _ ih =>
      intro ms' rest' h'
      cases h' with
      | done => cases member
      | first member' more' =>
          obtain ⟨rfl, rfl⟩ := member.unique member'
          obtain ⟨rfl, rfl⟩ := ih more'
          exact ⟨rfl, rfl⟩
  | next member _ ih =>
      intro ms' rest' h'
      cases h' with
      | next member' more' =>
          obtain ⟨rfl, rfl⟩ := member.unique member'
          obtain ⟨rfl, rfl⟩ := ih more'
          exact ⟨rfl, rfl⟩

theorem Elements.unique (h : Elements fs first ts ms rest) :
    ∀ {ms' : Fields} {rest' : List Token}, Elements fs first ts ms' rest' →
      ms = ms' ∧ rest = rest' := by
  induction h with
  | done =>
      intro ms' rest' h'
      cases h' with
      | done => exact ⟨rfl, rfl⟩
      | first fills => cases fills
  | first fills _ ih =>
      intro ms' rest' h'
      cases h' with
      | done => cases fills
      | first fills' more' =>
          obtain rfl := fills.unique fills'
          obtain ⟨rfl, rfl⟩ := ih more'
          exact ⟨rfl, rfl⟩
  | next fills _ ih =>
      intro ms' rest' h'
      cases h' with
      | next fills' more' =>
          obtain rfl := fills.unique fills'
          obtain ⟨rfl, rfl⟩ := ih more'
          exact ⟨rfl, rfl⟩

/-- **A document** says one thing as a record. -/
theorem Says.unique {text : String} (h : Says fields text ms) (h' : Says fields text ms') :
    ms = ms' := by
  cases h with
  | map tokens members =>
      cases h' with
      | map tokens' members' =>
          cases tokens.symm.trans tokens'
          exact (members.unique members').1
      | list tokens' => cases tokens.symm.trans tokens'
  | list tokens elements =>
      cases h' with
      | map tokens' => cases tokens.symm.trans tokens'
      | list tokens' elements' =>
          cases tokens.symm.trans tokens'
          exact (elements.unique elements').1

/-! ### Reading -/

theorem exists_fills (h : fieldText f ts = .ok (s, rest)) : ∃ t, ts = t :: rest ∧ Fills f t s := by
  unfold fieldText at h
  split at h
  · cases h
  · cases h
    exact ⟨_, rfl, .text _⟩
  · split at h
    · next hnull =>
        obtain ⟨optional, rfl⟩ := hnull
        cases h
        exact ⟨_, rfl, .nothing optional⟩
    · cases h

theorem eq_of_colon (h : colon ts = .ok rest) : ts = .colon :: rest := by
  unfold colon at h
  split at h
  · rw [Except.ok.inj h]
  · cases h

/-- The entry of a key is a member of the map, and no field that has been given. -/
theorem exists_member (h : entry fields given key ts = .ok (given', rest)) :
    ∃ new, Member fields (.text (some key) :: ts) new rest ∧ given' = given ++ new ∧
      ((given.map Prod.fst).Nodup → (given'.map Prod.fst).Nodup) := by
  unfold entry at h
  split at h
  · next found =>
      obtain ⟨us, hcolon, h⟩ := exists_of_bind h
      obtain ⟨vs, hskip, h⟩ := exists_of_bind h
      cases h
      rw [eq_of_colon hcolon]
      exact ⟨[], .unknown found hskip, (List.append_nil _).symm, id⟩
  · next f found =>
      split at h
      · cases h
      next hnew =>
      obtain ⟨us, hcolon, h⟩ := exists_of_bind h
      obtain ⟨⟨s, vs⟩, htext, h⟩ := exists_of_bind h
      cases h
      obtain ⟨t, rfl, fills⟩ := exists_fills htext
      rw [eq_of_colon hcolon]
      refine ⟨[(key, s)], .known found fills, rfl, fun hnodup => ?_⟩
      rw [List.map_append, List.map_singleton, ← List.concat_eq_append]
      refine hnodup.concat fun hmem => hnew ?_
      obtain ⟨e, he, hkey⟩ := List.mem_map.mp hmem
      exact List.any_eq_true.mpr ⟨e, he, decide_eq_true hkey⟩

theorem exists_members : ∀ {fuel : Nat} {first : Bool} {given : Fields} {ts : List Token},
    entries fields fuel first given ts = .ok (given', rest) →
      ∃ ms, Members fields first ts ms rest ∧ given' = given ++ ms ∧
        ((given.map Prod.fst).Nodup → (given'.map Prod.fst).Nodup)
  | 0,        _,     _,     _,  h => by cases h
  | fuel + 1, first, given, ts, h => by
      unfold entries at h
      split at h
      · cases h
        exact ⟨[], .done, (List.append_nil _).symm, id⟩
      · obtain ⟨⟨given₁, us⟩, hentry, h⟩ := exists_of_bind h
        obtain ⟨new, member, rfl, hnodup⟩ := exists_member hentry
        obtain ⟨ms, more, rfl, hmore⟩ := exists_members h
        exact ⟨new ++ ms, .first member more, List.append_assoc _ _ _, hmore ∘ hnodup⟩
      · obtain ⟨⟨given₁, us⟩, hentry, h⟩ := exists_of_bind h
        obtain ⟨new, member, rfl, hnodup⟩ := exists_member hentry
        obtain ⟨ms, more, rfl, hmore⟩ := exists_members h
        exact ⟨new ++ ms, .next member more, List.append_assoc _ _ _, hmore ∘ hnodup⟩
      · cases h
      · cases h

theorem exists_elements (h : elements fs first given ts = .ok (given', rest)) :
    ∃ ms, Elements fs first ts ms rest ∧ given' = given ++ ms ∧
      (ms.map Prod.fst).Sublist (fs.map Field.name) := by
  fun_induction elements fs first given ts with
  | case1 fs first given ts =>
      cases h
      exact ⟨[], .done, (List.append_nil _).symm, List.nil_sublist _⟩
  | case3 f fs given ts _ _ ih =>
      obtain ⟨⟨s, us⟩, htext, hmore⟩ := exists_of_bind h
      obtain ⟨t, rfl, fills⟩ := exists_fills htext
      obtain ⟨ms, more, rfl, hsub⟩ := ih _ _ hmore
      exact ⟨(f.name, s) :: ms, .first fills more, List.append_assoc _ _ _, hsub.cons_cons f.name⟩
  | case5 f fs given ts _ ih =>
      obtain ⟨⟨s, us⟩, htext, hmore⟩ := exists_of_bind h
      obtain ⟨t, rfl, fills⟩ := exists_fills htext
      obtain ⟨ms, more, rfl, hsub⟩ := ih _ _ hmore
      exact ⟨(f.name, s) :: ms, .next fills more, List.append_assoc _ _ _, hsub.cons_cons f.name⟩
  | case2 | case4 | case6 => cases h

/-- **What is read** of a record is what the document says, and no field is in it twice. -/
theorem says_of_record {text : String} (hfields : (fields.map Field.name).Nodup)
    (h : record name fields text = .ok ms) :
    Says fields text ms ∧ (ms.map Prod.fst).Nodup := by
  have hrest {x : Except Complaint (Fields × List Token)}
      (h : (x >>= fun y => if y.2.isEmpty then pure y.1 else throw .malformed) = .ok ms) :
      x = .ok (ms, []) := by
    obtain ⟨⟨given, rest⟩, hx, h⟩ := exists_of_bind h
    split at h
    · next hempty =>
        obtain rfl : rest = [] := List.isEmpty_iff.mp hempty
        cases h
        exact hx
    · cases h
  unfold record at h
  dsimp only at h
  split at h
  · cases h
  · next tokens =>
      obtain ⟨ms, members, rfl, hnodup⟩ := exists_members (hrest h)
      exact ⟨.map tokens members, hnodup List.nodup_nil⟩
  · next tokens =>
      obtain ⟨ms, elements, rfl, hsub⟩ := exists_elements (hrest h)
      exact ⟨.list tokens elements, hsub.nodup hfields⟩
  · cases h

end RecordingIndex.Json
