import RecordingIndex.Proofs.FileSystem.Entry
import RecordingIndex.Proofs.Path.Child

/-!
# Proofs — FileSystem — the way to a directory

A walk that ends in a directory meets nothing but directories and links (`Leads`).  So it goes the
same way where these stand unchanged (`Leads.mono`), and it goes on from its end: where a path leads
to a directory, a name in it leads to what stands there under the name (`Way.resolve_child`).
-/

namespace RecordingIndex.FileSystem

open RecordingIndex.Path (Step)

variable {fs fs' : FileSystem} {purpose : Purpose} {k k' : Nat} {here l : Location} {n : Bytes}
  {steps rest : List Step}

/-! ### Steps of a walk -/

/-- The directory that a step leads to, unless it enters an entry. -/
def aside? (here : Location) : Step → Option Location
  | .enter _       => none
  | .up            => some here.dropLast
  | .stay | .close => some here

/-- What happens at a link where `k` more may be followed. -/
def follow (fs : FileSystem) (purpose : Purpose) :
    Nat → Location → List Step → Except FileError Found
  | 0     => fun _ _ => .error .tooManyLinks
  | k + 1 => fs.walk purpose k

theorem walk_eq (fs : FileSystem) (purpose : Purpose) (k : Nat) :
    fs.walk purpose k = fs.walkWith purpose (fs.follow purpose k) := by
  cases k <;> rfl

theorem walk_aside {s : Step} {next : Location} (hs : aside? here s = some next) :
    fs.walk purpose k here (s :: rest) =
      if fs.get? here = some .directory then fs.walk purpose k next rest
      else .error .notADirectory := by
  rw [walk_eq]
  cases s with
  | enter n => cases hs
  | up | stay | close =>
      cases hs
      rw [walkWith]

theorem walk_enter (hdir : fs.get? here = some .directory) (hlen : n.length ≤ maxName)
    (hrest : ¬(purpose = .make ∧ rest = [.close])) :
    fs.walk purpose k here (.enter n :: rest) =
      match fs.get? (here ++ [n]) with
      | none           => if rest = [] then .ok (.free (here ++ [n])) else .error .notFound
      | some (.link t) =>
          if rest = [] ∧ purpose = .lookAtLink then .ok (.entry (here ++ [n]) (.link t))
          else fs.follow purpose k (if t.isAbsolute then [] else here) (t.steps ++ rest)
      | some _         => fs.walk purpose k (here ++ [n]) rest := by
  rcases entry : fs.get? (here ++ [n]) with _ | _ | _ | _ <;>
    rw [walk_eq, walkWith, if_neg (by simp [hdir]), if_neg (by omega), if_neg hrest, entry]

/-! ### The way to a directory -/

/-- The steps lead from `here` to the directory at `l`, where of the `k` links that may be followed
`k'` are left. -/
inductive Leads (fs : FileSystem) : Nat → Location → List Step → Location → Nat → Prop where
  | arrive {k : Nat} {l : Location}
      (dir : fs.get? l = some .directory) : Leads fs k l [] l k
  | aside {k k' : Nat} {here next l : Location} {s : Step} {rest : List Step}
      (dir : fs.get? here = some .directory) (step : aside? here s = some next)
      (way : Leads fs k next rest l k') : Leads fs k here (s :: rest) l k'
  | enter {k k' : Nat} {here l : Location} {n : Bytes} {rest : List Step}
      (dir : fs.get? here = some .directory) (length : n.length ≤ maxName)
      (entry : fs.get? (here ++ [n]) = some .directory)
      (way : Leads fs k (here ++ [n]) rest l k') : Leads fs k here (.enter n :: rest) l k'
  | follow {k k' : Nat} {here l : Location} {n : Bytes} {rest : List Step} {t : Path}
      (dir : fs.get? here = some .directory) (length : n.length ≤ maxName)
      (entry : fs.get? (here ++ [n]) = some (.link t))
      (way : Leads fs k (if t.isAbsolute then [] else here) (t.steps ++ rest) l k') :
      Leads fs (k + 1) here (.enter n :: rest) l k'

namespace Leads

theorem directory (h : Leads fs k here steps l k') : fs.get? l = some .directory := by
  induction h with
  | arrive dir => exact dir
  | aside _ _ _ ih | enter _ _ _ _ ih | follow _ _ _ _ ih => exact ih

/-- A way stays one where directories and links stand unchanged. -/
theorem mono (h : Leads fs k here steps l k')
    (hsame : ∀ x e, fs.get? x = some e → (∀ c, e ≠ .file c) → fs'.get? x = some e) :
    Leads fs' k here steps l k' := by
  have hdir {x : Location} (h : fs.get? x = some .directory) : fs'.get? x = some .directory :=
    hsame x _ h fun c => by simp
  induction h with
  | arrive dir => exact .arrive (hdir dir)
  | aside dir step _ ih => exact .aside (hdir dir) step ih
  | enter dir length entry _ ih => exact .enter (hdir dir) length (hdir entry) ih
  | follow dir length entry _ ih =>
      exact .follow (hdir dir) length (hsame _ _ entry fun c => by simp) ih

theorem append {m : Location} {j : Nat} (h : Leads fs k here steps m j)
    (hrest : Leads fs j m rest l k') : Leads fs k here (steps ++ rest) l k' := by
  induction h with
  | arrive => exact hrest
  | aside dir step _ ih => exact .aside dir step (ih hrest)
  | enter dir length entry _ ih => exact .enter dir length entry (ih hrest)
  | follow dir length entry _ ih =>
      exact .follow dir length entry (by simpa [List.append_assoc] using ih hrest)

/-- A slash at the end of a path to a directory demands nothing more. -/
theorem of_close (h : Leads fs k here (steps ++ [.close]) l k') : Leads fs k here steps l k' := by
  generalize hall : steps ++ [Step.close] = all at h
  induction h generalizing steps with
  | arrive => simp at hall
  | aside dir step way ih =>
      cases steps with
      | nil =>
          cases hall
          cases step
          exact way
      | cons s steps =>
          cases hall
          exact .aside dir step (ih rfl)
  | enter dir length entry way ih =>
      cases steps with
      | nil => cases hall
      | cons s steps =>
          cases hall
          exact .enter dir length entry (ih rfl)
  | follow dir length entry way ih =>
      cases steps with
      | nil => cases hall
      | cons s steps =>
          cases hall
          exact .follow dir length entry (ih (List.append_assoc _ _ _))

/-- A walk goes the way. -/
theorem walk (h : Leads fs k here steps l k') :
    fs.walk .look k here steps = .ok (.entry l .directory) := by
  induction h with
  | arrive dir => rw [walk_eq, walkWith, dir]
  | aside dir step _ ih => rw [walk_aside step, if_pos dir, ih]
  | enter dir length entry _ ih => simp [walk_enter dir length, entry, ih]
  | follow dir length entry _ ih => simp [walk_enter dir length, entry, FileSystem.follow, ih]

/-- A walk that enters something at the end of the way goes the way. -/
theorem walk_append (h : Leads fs k here steps l k') :
    fs.walk purpose k here (steps ++ [.enter n]) = fs.walk purpose k' l [.enter n] := by
  induction h with
  | arrive => rfl
  | aside dir step _ ih => rw [List.cons_append, walk_aside step, if_pos dir, ih]
  | enter dir length entry _ ih =>
      rw [List.cons_append, walk_enter dir length (by simp [List.append_eq_singleton_iff]), entry,
        ih]
  | follow dir length entry _ ih =>
      rw [List.cons_append, walk_enter dir length (by simp [List.append_eq_singleton_iff]), entry]
      simp [FileSystem.follow, ← ih]

end Leads

/-- A walk that is to go on from a file fails. -/
theorem walk_file {c : Contents} {s : Step} (hfile : fs.get? here = some (.file c)) :
    fs.walk purpose k here (s :: rest) = .error .notADirectory := by
  cases s <;> simp [walk_eq, walkWith, hfile]

theorem walk_file_ne {c : Contents} (hfile : fs.get? here = some (.file c)) :
    fs.walk purpose k here steps ≠ .ok (.entry l .directory) := by
  cases steps with
  | nil => simp [walk_eq, walkWith, hfile]
  | cons s rest => simp [walk_file hfile]

/-- Where a file takes the place of a link, a way either avoids it or ends there. -/
theorem Leads.avoids_or_fails {place : Location} {c : Contents} (h : Leads fs k here steps l k')
    (hplace : fs.get? place ≠ some .directory) (hfile : fs'.get? place = some (.file c))
    (hsame : ∀ x e, x ≠ place → fs.get? x = some e → (∀ c, e ≠ .file c) → fs'.get? x = some e) :
    (fs.erase place).Leads k here steps l k' ∨
      fs'.walk purpose k here (steps ++ [.enter n]) = .error .notADirectory := by
  have hnil : place ≠ [] := fun hnil => hplace (hnil ▸ get?_nil fs)
  have herase {x : Location} {e : Entry} (hx : fs.get? x = some e) (hne : x ≠ place) :
      (fs.erase place).get? x = some e := by
    rw [get?_erase hnil, if_neg hne, hx]
  have hdir {x : Location} (hx : fs.get? x = some .directory) :
      (fs.erase place).get? x = some .directory ∧ fs'.get? x = some .directory := by
    have hne : x ≠ place := fun hxp => hplace (hxp ▸ hx)
    exact ⟨herase hx hne, hsame x _ hne hx fun c => by simp⟩
  induction h with
  | arrive dir => exact .inl (.arrive (hdir dir).1)
  | aside dir step _ ih =>
      rcases ih with way | fails
      · exact .inl (.aside (hdir dir).1 step way)
      · exact .inr (by rw [List.cons_append, walk_aside step, if_pos (hdir dir).2, fails])
  | enter dir length entry _ ih =>
      rcases ih with way | fails
      · exact .inl (.enter (hdir dir).1 length (hdir entry).1 way)
      · refine .inr ?_
        rw [List.cons_append,
          walk_enter (hdir dir).2 length (by simp [List.append_eq_singleton_iff]), (hdir entry).2]
        exact fails
  | @follow k k' here l m rest t dir length entry _ ih =>
      by_cases hlink : here ++ [m] = place
      · -- The link is the one that was replaced, and the walk has steps left.
        refine .inr ?_
        rw [List.cons_append,
          walk_enter (hdir dir).2 length (by simp [List.append_eq_singleton_iff]), hlink, hfile]
        cases rest <;> exact walk_file hfile
      · rcases ih with way | fails
        · exact .inl (.follow (hdir dir).1 length (herase entry hlink) way)
        · refine .inr ?_
          rw [List.cons_append,
            walk_enter (hdir dir).2 length (by simp [List.append_eq_singleton_iff]),
            hsame _ _ hlink entry fun c => by simp]
          simpa [FileSystem.follow] using fails

/-- A walk that ends in a directory goes a way. -/
theorem exists_leads : ∀ {k : Nat} {steps : List Step} {here : Location},
    fs.walk .look k here steps = .ok (.entry l .directory) → ∃ k', Leads fs k here steps l k'
  | k, [],        here, h => by
      rw [walk_eq, walkWith] at h
      split at h
      · next e hentry =>
          cases h
          exact ⟨k, .arrive hentry⟩
      · cases h
  | k, s :: rest, here, h => by
      by_cases dir : fs.get? here = some .directory
      case neg => cases s <;> simp [walk_eq, walkWith, dir] at h
      cases step : aside? here s with
      | some next =>
          rw [walk_aside step, if_pos dir] at h
          obtain ⟨k', way⟩ := exists_leads h
          exact ⟨k', .aside dir step way⟩
      | none =>
      cases s with
      | up | stay | close => cases step
      | enter n =>
      by_cases length : n.length ≤ maxName
      case neg => simp [walk_eq, walkWith, dir, Nat.lt_of_not_le length] at h
      rw [walk_enter dir length (by simp)] at h
      cases entry : fs.get? (here ++ [n]) with
      | none =>
          simp only [entry] at h
          split at h <;> cases h
      | some e =>
      simp only [entry] at h
      cases e with
      | directory =>
          obtain ⟨k', way⟩ := exists_leads h
          exact ⟨k', .enter dir length entry way⟩
      | file c => exact absurd h (walk_file_ne entry)
      | link t =>
          simp only [reduceCtorEq, and_false, if_false] at h
          cases k with
          | zero => cases h
          | succ k =>
              obtain ⟨k', way⟩ := exists_leads (k := k) h
              exact ⟨k', .follow dir length entry way⟩
termination_by k steps => (k, steps.length)

/-! ### Paths to directories -/

/-- The path leads to the directory at `l`, where `k` more links may be followed. -/
structure Way (fs : FileSystem) (p : Path) (l : Location) (k : Nat) : Prop where
  no_nul : 0 ∉ p.bytes
  ne_nil : p.bytes ≠ []
  length : p.bytes.length < maxPath
  leads  : fs.Leads maxLinks (if p.isAbsolute then [] else fs.cwd) p.way l k

variable {p : Path}

theorem exists_way (h : fs.stat p = .ok (l, .directory)) : ∃ k, fs.Way p l k := by
  have hresolve : fs.resolve .look p = .ok (.entry l .directory) := by
    rw [stat] at h
    split at h
    · next hr =>
        cases h
        exact hr
    · cases h
    · cases h
  by_cases no_nul : 0 ∈ p.bytes
  · simp [resolve, no_nul] at hresolve
  by_cases ne_nil : p.bytes = []
  · simp [resolve, ne_nil] at hresolve
  by_cases length : maxPath ≤ p.bytes.length
  · simp [resolve, no_nul, ne_nil, length] at hresolve
  rw [resolve, if_neg no_nul, if_neg ne_nil, if_neg length, Path.steps_eq] at hresolve
  obtain ⟨k, leads⟩ := exists_leads hresolve
  refine ⟨k, no_nul, ne_nil, by omega, ?_⟩
  by_cases hslash : p.bytes.getLast? = some Path.slash
  · rw [if_pos hslash] at leads
    exact leads.of_close
  · rw [if_neg hslash, List.append_nil] at leads
    exact leads

/-- What a walk comes to that ends with a name in the directory at `l`. -/
def underName (fs : FileSystem) (purpose : Purpose) (k : Nat) (l : Location) (n : Bytes) :
    Except FileError Found :=
  match fs.get? (l ++ [n]) with
  | none           => .ok (.free (l ++ [n]))
  | some (.link t) =>
      if purpose = .lookAtLink then .ok (.entry (l ++ [n]) (.link t))
      else fs.follow purpose k (if t.isAbsolute then [] else l) t.steps
  | some e         => .ok (.entry (l ++ [n]) e)

theorem underName_free (h : fs.get? (l ++ [n]) = none) :
    fs.underName purpose k l n = .ok (.free (l ++ [n])) := by
  simp only [underName, h]

theorem underName_entry {e : Entry} (h : fs.get? (l ++ [n]) = some e) (he : ∀ t, e ≠ .link t) :
    fs.underName purpose k l n = .ok (.entry (l ++ [n]) e) := by
  cases e with
  | link t => exact absurd rfl (he t)
  | directory | file => simp only [underName, h]

theorem underName_lookAtLink {e : Entry} (h : fs.get? (l ++ [n]) = some e) :
    fs.underName .lookAtLink k l n = .ok (.entry (l ++ [n]) e) := by
  cases e <;> simp [underName, h]

namespace Way

theorem directory (w : fs.Way p l k) : fs.get? l = some .directory := w.leads.directory

theorem resolve_eq (w : fs.Way p l k) :
    fs.resolve purpose p =
      fs.walk purpose maxLinks (if p.isAbsolute then [] else fs.cwd) p.steps := by
  rw [resolve, if_neg w.no_nul, if_neg w.ne_nil, if_neg (Nat.not_le.mpr w.length)]

theorem stat (w : fs.Way p l k) : fs.stat p = .ok (l, .directory) := by
  have hclose : fs.Leads k l (if p.bytes.getLast? = some Path.slash then [.close] else []) l k := by
    split
    · exact .aside w.directory rfl (.arrive w.directory)
    · exact .arrive w.directory
  rw [FileSystem.stat, w.resolve_eq, Path.steps_eq, (w.leads.append hclose).walk]

theorem mono (w : fs.Way p l k) (hcwd : fs'.cwd = fs.cwd)
    (hsame : ∀ x e, fs.get? x = some e → (∀ c, e ≠ .file c) → fs'.get? x = some e) :
    fs'.Way p l k :=
  ⟨w.no_nul, w.ne_nil, w.length, hcwd ▸ w.leads.mono hsame⟩

/-- Slashes behind a path to a directory lead there too. -/
theorem append_slashes {j : Nat} (w : fs.Way p l k) (h : p.bytes.length + j < maxPath) :
    fs.Way ⟨p.bytes ++ List.replicate j Path.slash⟩ l k where
  no_nul := by
    have hslash : (0 : UInt8) ≠ Path.slash := by decide
    simp [w.no_nul, hslash]
  ne_nil := by simp [w.ne_nil]
  length := by simpa using h
  leads := by
    have habsolute : Path.isAbsolute ⟨p.bytes ++ List.replicate j Path.slash⟩ = p.isAbsolute := by
      rw [Path.isAbsolute, Path.isAbsolute, List.head?_append_of_ne_nil _ w.ne_nil]
    rw [habsolute, Path.way_append_slashes]
    exact w.leads

/-- A name in the directory is looked for at the end of the way, in any file system with the same
working directory. -/
theorem resolve_child_eq (w : fs.Way p l k) (hcwd : fs'.cwd = fs.cwd) (hn : Path.IsName n)
    (hnul : 0 ∉ n) :
    fs'.resolve purpose (p.child n) =
      if maxPath ≤ (p.child n).bytes.length then .error .nameTooLong
      else
        fs'.walk purpose maxLinks (if p.isAbsolute then [] else fs.cwd) (p.way ++ [.enter n]) := by
  have hbytes : 0 ∉ (p.child n).bytes := by
    rw [Path.child_bytes hn, Path.stem]
    have hslash : (0 : UInt8) ≠ Path.slash := by decide
    split <;> simp [w.no_nul, hnul, hslash]
  have hne : (p.child n).bytes ≠ [] := by simp [Path.child_bytes hn, hn.ne_nil]
  rw [resolve, if_neg hbytes, if_neg hne, Path.isAbsolute_child hn w.ne_nil, Path.steps_child hn,
    hcwd]

/-- **A name in a directory** leads to what stands there under the name. -/
theorem resolve_child (w : fs.Way p l k) (hn : Path.IsName n) (hnul : 0 ∉ n)
    (hlen : n.length ≤ maxName) :
    fs.resolve purpose (p.child n) =
      if maxPath ≤ (p.child n).bytes.length then .error .nameTooLong
      else fs.underName purpose k l n := by
  rw [w.resolve_child_eq rfl hn hnul]
  split
  · rfl
  rw [w.leads.walk_append, walk_enter w.directory hlen (by simp), underName]
  cases entry : fs.get? (l ++ [n]) with
  | none => rfl
  | some e =>
      cases e with
      | link t => simp
      | directory | file => simp [walk_eq, walkWith, entry]

/-- Where a file takes the place of a link, the path led to the directory without the link too, or
nothing is found under it any more. -/
theorem avoids_or_fails {place : Location} {c : Contents} (w : fs.Way p l k)
    (hplace : fs.get? place ≠ some .directory) (hfile : fs'.get? place = some (.file c))
    (hcwd : fs'.cwd = fs.cwd)
    (hsame : ∀ x e, x ≠ place → fs.get? x = some e → (∀ c, e ≠ .file c) → fs'.get? x = some e)
    (hn : Path.IsName n) (hnul : 0 ∉ n) (hshort : (p.child n).bytes.length < maxPath) :
    (fs.erase place).Way p l k ∨ fs'.resolve purpose (p.child n) = .error .notADirectory := by
  rw [w.resolve_child_eq hcwd hn hnul, if_neg (Nat.not_le.mpr hshort)]
  rcases w.leads.avoids_or_fails hplace hfile hsame with leads | fails
  · exact .inl ⟨w.no_nul, w.ne_nil, w.length, (cwd_erase fs place).symm ▸ leads⟩
  · exact .inr fails

end Way

end RecordingIndex.FileSystem
