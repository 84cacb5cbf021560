import RecordingIndex.Proofs.FileSystem.Way

/-!
# Proofs — FileSystem — directories without links

Whether a name can be looked for under the path of a directory depends on the path and the name
alone (`CanName`).  If it can, and no link stands there, what is found is what stands in the
directory under the name (`Way.contents_child`); so two directories tell the same of a name under
which the same stands.
-/

namespace RecordingIndex.FileSystem

variable {fs : FileSystem} {p : Path} {l : Location} {k : Nat} {n : Bytes} {c : Contents}

/-- The name can be looked for under the path: neither is too long, and the name has no NUL. -/
structure CanName (p : Path) (n : Bytes) : Prop where
  no_nul : 0 ∉ n
  name   : n.length ≤ maxName
  path   : (p.child n).bytes.length < maxPath

/-- No link stands directly in the directory at `l`. -/
def IsPlain (fs : FileSystem) (l : Location) : Prop := ∀ n t, fs.get? (l ++ [n]) ≠ some (.link t)

namespace Way

theorem isDirectory (w : fs.Way p l k) : fs.isDirectory p = true := by
  rw [FileSystem.isDirectory, w.stat]

theorem stat_child (w : fs.Way p l k) (hn : Path.IsName n) (hplain : fs.IsPlain l)
    (hcan : CanName p n) :
    fs.stat (p.child n) =
      match fs.get? (l ++ [n]) with
      | some e => .ok (l ++ [n], e)
      | none   => .error .notFound := by
  rw [FileSystem.stat, w.resolve_child hn hcan.no_nul hcan.name,
    if_neg (Nat.not_le.mpr hcan.path)]
  cases hentry : fs.get? (l ++ [n]) with
  | none => rw [underName_free hentry]
  | some e => rw [underName_entry hentry fun t ht => hplain n t (ht ▸ hentry)]

/-- What cannot be looked for is not found. -/
theorem exists_stat_child_error (w : fs.Way p l k) (hn : Path.IsName n) (hcan : ¬CanName p n) :
    ∃ e, fs.stat (p.child n) = .error e := by
  have herror : ∀ e, fs.resolve .look (p.child n) = .error e → fs.stat (p.child n) = .error e :=
    fun e h => by rw [FileSystem.stat, h]
  by_cases hnul : 0 ∈ n
  · refine ⟨.nulInPath, herror _ ?_⟩
    rw [resolve, if_pos]
    rw [Path.child_bytes hn]
    exact List.mem_append_right _ hnul
  by_cases hpath : maxPath ≤ (p.child n).bytes.length
  · refine ⟨.nameTooLong, herror _ ?_⟩
    rw [w.resolve_child_eq rfl hn hnul, if_pos hpath]
  by_cases hname : n.length ≤ maxName
  · exact absurd ⟨hnul, hname, Nat.lt_of_not_le hpath⟩ hcan
  · refine ⟨.nameTooLong, herror _ ?_⟩
    rw [w.resolve_child_eq rfl hn hnul, if_neg hpath, w.leads.walk_append, walk_eq, walkWith,
      if_neg (by simp [w.directory]), if_pos (Nat.lt_of_not_le hname)]

/-- **What a file holds** that is found under a name is what the file in the directory holds. -/
theorem contents_child (w : fs.Way p l k) (hn : Path.IsName n) (hplain : fs.IsPlain l) :
    fs.contents (p.child n) = .ok c ↔ CanName p n ∧ fs.get? (l ++ [n]) = some (.file c) := by
  by_cases hcan : CanName p n
  · rw [contents, w.stat_child hn hplain hcan]
    rcases fs.get? (l ++ [n]) with _ | _ | c' | t <;> simp [hcan]
  · obtain ⟨e, he⟩ := w.exists_stat_child_error hn hcan
    simp [contents, he, hcan]

end Way

/-- A path leads to a regular file if that holds something. -/
theorem isFile_iff {q : Path} : fs.isFile q = true ↔ ∃ c, fs.contents q = .ok c := by
  rw [isFile, contents]
  rcases fs.stat q with e | ⟨l, _ | c | t⟩ <;> simp

end RecordingIndex.FileSystem
