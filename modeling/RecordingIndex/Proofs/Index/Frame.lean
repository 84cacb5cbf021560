import RecordingIndex.Proofs.FileSystem.Frame
import RecordingIndex.Proofs.Index.Store

/-!
# Proofs — Index — what storing leaves as it is

Storing the index of a directory changes the places of the index and of the draft, and one more: a
link in the place of the draft is followed, so that the text of the index goes into the file it
leads to (`get?_store_linked`).  Everything else stays (`get?_store`).
-/

namespace RecordingIndex.Index

variable {fs fs' : FileSystem} {dir : Path} {m : Metadata} {l x : Location} {k : Nat}

/-- The place of the index or of its draft in the directory that the path leads to. -/
def IsOwnPlace (fs : FileSystem) (dir : Path) (x : Location) : Prop :=
  ∃ l, fs.stat dir = .ok (l, .directory) ∧ (x = l ++ [indexName] ∨ x = l ++ [draftName])

/-- A link stands in the place of the draft. -/
def DraftIsLink (fs : FileSystem) (dir : Path) : Prop :=
  ∃ y t, fs.resolve .lookAtLink (draftPath dir) = .ok (.entry y (.link t))

/-- A link stands in the place of the draft, and what is written there goes to `x`. -/
def DraftLinksTo (fs : FileSystem) (dir : Path) (x : Location) : Prop :=
  DraftIsLink fs dir ∧ fs.Holds (draftPath dir) x

/-! ### The steps of storing -/

section

variable (w : fs.Way dir l k) {e : Entry}

include w

theorem entry_draft (h : fs.resolve .lookAtLink (draftPath dir) = .ok (.entry x e)) :
    x = l ++ [draftName] ∧ fs.get? (l ++ [draftName]) = some e :=
  w.get?_of_lookAtLink isName_draftName (by decide) (by decide) (draftPath_eq dir ▸ h)

theorem place_index (h : fs.resolve .lookAtLink (path dir) = .ok (.free x) ∨
    ∃ e, fs.resolve .lookAtLink (path dir) = .ok (.entry x e)) : x = l ++ [indexName] := by
  rw [path_eq] at h
  rcases h with free | ⟨e, entry⟩
  · exact (w.eq_of_free isName_indexName (by decide) (by decide) free).1
  · exact (w.get?_of_lookAtLink isName_indexName (by decide) (by decide) entry).1

/-- Discarding the draft takes it away or leaves it. -/
theorem isKept_discard : IsKept fs (discard fs (draftPath dir)) dir := by
  rw [discard]
  split
  case isFalse => exact .inl rfl
  cases hremove : fs.removeFile (draftPath dir) with
  | error => exact .inl rfl
  | ok fs' =>
      obtain ⟨y, e, found, -, rfl⟩ := FileSystem.exists_place_of_removeFile hremove
      obtain ⟨rfl, -⟩ := entry_draft w found
      refine .inr ⟨l, w.stat, ?_, fun x hx => ?_⟩
      · show (fs.erase _).get? _ = none
        rw [FileSystem.get?_erase (by simp), if_pos rfl]
      · show (fs.erase _).get? x = fs.get? x
        rw [FileSystem.get?_erase (by simp), if_neg hx]

theorem get?_discard (hx : x ≠ l ++ [draftName]) :
    (discard fs (draftPath dir)).get? x = fs.get? x :=
  (isKept_discard w).get?_eq w hx

/-- Renaming the draft takes what stands in its place to the place of the index. -/
theorem get?_rename_draft (htree : fs.IsTree)
    (hdraft : fs.get? (l ++ [draftName]) ≠ some .directory)
    (h : fs.rename (draftPath dir) (path dir) = .ok fs') :
    ∃ e, fs.get? (l ++ [draftName]) = some e ∧
      ∀ x, fs'.get? x = if x = l ++ [indexName] then some e
        else if x = l ++ [draftName] then none else fs.get? x := by
  have hsource : ∀ s, fs.resolve .lookAtLink (draftPath dir) ≠ .ok (.entry s .directory) :=
    fun s hs => hdraft (entry_draft w hs).2
  obtain ⟨s, e, t, source, target, hget⟩ := htree.get?_rename h hsource
  obtain ⟨rfl, hentry⟩ := entry_draft w source
  obtain rfl := place_index w target
  exact ⟨e, hentry, hget⟩

/-- What is written is written under a path that is short enough. -/
theorem short_of_holds {place : Location} (h : fs.Holds (draftPath dir) place) :
    (draftPath dir).bytes.length < FileSystem.maxPath := by
  refine Nat.lt_of_not_le fun long => ?_
  have hlong : fs.resolve .make (draftPath dir) = .error .nameTooLong :=
    resolve_draftPath_long w long
  cases h with
  | file found | free found => cases hlong.symm.trans found

/-- The draft is written in its place unless a link stands there. -/
theorem eq_or_linksTo_of_holds {place : Location} (h : fs.Holds (draftPath dir) place) :
    fs.get? (l ++ [draftName]) ≠ some .directory ∧
      (place = l ++ [draftName] ∨ DraftLinksTo fs dir place) := by
  obtain ⟨hdraft, hplace⟩ :=
    w.holds_child isName_draftName (by decide) (by decide) (draftPath_eq dir ▸ h)
  refine ⟨hdraft, hplace.imp_right fun ⟨t, ht⟩ => ⟨⟨l ++ [draftName], t, ?_⟩, h⟩⟩
  rw [resolve_draftPath w (short_of_holds w h), FileSystem.underName_lookAtLink ht]

end

/-! ### Storing -/

/-- Once the draft is written, nothing changes but the places of the index and of the draft. -/
theorem get?_store_written {place : Location} (htree : fs.IsTree)
    (hdir : fs.isDirectory dir = true) (hholds : fs.Holds (draftPath dir) place)
    (hx : ¬IsOwnPlace fs dir x) :
    (store fs dir m).1.get? x = (fs.insert place (.file (contents m))).get? x := by
  obtain ⟨l, hstat⟩ := FileSystem.exists_of_isDirectory hdir
  obtain ⟨k, w⟩ := FileSystem.exists_way hstat
  have hxi : x ≠ l ++ [indexName] := fun h => hx ⟨l, hstat, .inl h⟩
  have hxd : x ≠ l ++ [draftName] := fun h => hx ⟨l, hstat, .inr h⟩
  have hwrite := hholds.write (contents m)
  have w' : (fs.insert place (.file (contents m))).Way dir l k := w.insert hholds.fileOrFree
  have hdraft : (fs.insert place (.file (contents m))).get? (l ++ [draftName]) ≠
      some .directory := by
    rw [FileSystem.get?_insert hholds.fileOrFree.ne_nil]
    split
    · simp
    · exact (eq_or_linksTo_of_holds w hholds).1
  cases hrename : (fs.insert place (.file (contents m))).rename (draftPath dir) (path dir) with
  | error e =>
      rw [store_of_rename_error hdir hwrite hrename]
      exact get?_discard w' hxd
  | ok fs'' =>
      rw [store_of_rename hdir hwrite hrename]
      obtain ⟨e, -, hget⟩ :=
        get?_rename_draft w' (FileSystem.isTree_write htree hwrite) hdraft hrename
      rw [hget, if_neg hxi, if_neg hxd]

/-- What is stored goes through a link in the place of the draft. -/
theorem get?_store_linked (htree : fs.IsTree) (hdir : fs.isDirectory dir = true)
    (hlinks : DraftLinksTo fs dir x) (hx : ¬IsOwnPlace fs dir x) :
    (store fs dir m).1.get? x = some (.file (contents m)) := by
  rw [get?_store_written htree hdir hlinks.2 hx,
    FileSystem.get?_insert hlinks.2.fileOrFree.ne_nil, if_pos rfl]

/-- **Storing** leaves everything else as it is. -/
theorem get?_store (htree : fs.IsTree) (hlinks : ¬DraftLinksTo fs dir x)
    (hx : ¬IsOwnPlace fs dir x) : (store fs dir m).1.get? x = fs.get? x := by
  by_cases hdir : fs.isDirectory dir = true
  case neg => rw [store, if_pos (by simpa using hdir)]
  obtain ⟨l, hstat⟩ := FileSystem.exists_of_isDirectory hdir
  obtain ⟨k, w⟩ := FileSystem.exists_way hstat
  cases hwrite : fs.write (draftPath dir) (contents m) with
  | error e =>
      have hxd : x ≠ l ++ [draftName] := fun h => hx ⟨l, hstat, .inr h⟩
      rw [store, if_neg (by simp [hdir]), hwrite]
      exact get?_discard w hxd
  | ok fs' =>
      obtain ⟨place, hholds, -⟩ := FileSystem.exists_place_of_write hwrite
      rw [get?_store_written htree hdir hholds hx,
        FileSystem.get?_insert hholds.fileOrFree.ne_nil, if_neg ?_]
      rintro rfl
      rcases (eq_or_linksTo_of_holds w hholds).2 with hown | hlink
      · exact hx ⟨l, hstat, .inr hown⟩
      · exact hlinks hlink

/-! ### All or nothing -/

theorem stores_of_not_draftIsLink (hlink : ¬DraftIsLink fs dir) :
    Stores fs dir m (store fs dir m).1 (store fs dir m).2 :=
  stores_store fs dir m fun y t h => hlink ⟨y, t, h⟩

theorem exists_isStored (htree : fs.IsTree) (hlink : ¬DraftIsLink fs dir)
    (h : (store fs dir m).2 = .ok ()) : ∃ l, IsStored fs (store fs dir m).1 dir m l := by
  have hstores := stores_of_not_draftIsLink (m := m) hlink
  rw [h] at hstores
  generalize (store fs dir m).1 = fs' at hstores
  cases hstores with
  | @moved l _ way draft short index => exact ⟨l, isStored_moved htree way draft short index⟩

/-- The index is a directory before and after its draft is taken back. -/
theorem contents_withdrawn (w : fs.Way dir l k) (hdraft : DraftIsFile fs l)
    (hshort : (draftPath dir).bytes.length < FileSystem.maxPath)
    (hindex : fs.get? (l ++ [indexName]) = some .directory) :
    ((drafted fs l m).erase (l ++ [draftName])).contents (path dir) = fs.contents (path dir) := by
  have hsame : ∀ x, x ≠ l ++ [draftName] →
      ((drafted fs l m).erase (l ++ [draftName])).get? x = fs.get? x := by
    intro x hx
    rw [FileSystem.get?_erase (by simp), if_neg hx, get?_drafted, if_neg hx]
  have w' : ((drafted fs l m).erase (l ++ [draftName])).Way dir l k := by
    refine w.mono (by rw [FileSystem.cwd_erase, drafted, FileSystem.cwd_insert]) fun x e hx he => ?_
    rw [hsame x fun hxd => ?_, hx]
    obtain ⟨c, hc⟩ := hdraft e (hxd ▸ hx)
    exact he c hc
  have hindex' := (hsame (l ++ [indexName]) (by simp [draftName_ne_indexName.symm])).trans hindex
  rw [FileSystem.contents, FileSystem.stat, resolve_path w' hshort,
    FileSystem.underName_entry hindex' (by simp), FileSystem.contents, FileSystem.stat,
    resolve_path w hshort, FileSystem.underName_entry hindex (by simp)]

/-- Storing that fails leaves the index as it is, looked at in its place or by its path. -/
theorem kept_of_error {reason : String} (hlink : ¬DraftIsLink fs dir)
    (h : (store fs dir m).2 = .error reason) :
    IsKept fs (store fs dir m).1 dir ∧
      (store fs dir m).1.contents (path dir) = fs.contents (path dir) := by
  have hstores := stores_of_not_draftIsLink (m := m) hlink
  rw [h] at hstores
  generalize (store fs dir m).1 = fs' at hstores
  cases hstores with
  | untouched => exact ⟨.inl rfl, rfl⟩
  | withdrawn _ way draft short index =>
      exact ⟨isKept_withdrawn way _, contents_withdrawn way draft short index⟩

end RecordingIndex.Index
