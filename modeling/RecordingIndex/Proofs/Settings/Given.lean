import RecordingIndex.Proofs.Json.Record
import RecordingIndex.Proofs.List
import RecordingIndex.Settings.File

/-!
# Proofs — Settings — what a file gives

A document gives a setting if an entry under its key is a text, which may be empty; a key that is
missing or null gives nothing (`Gives`).  The settings that are loaded are those texts, and what is
standard where there is none (`isGiven_of_load`).
-/

namespace RecordingIndex

namespace Toml

variable {names : List String} {key s : String}

theorem Item.asText_eq_ok_iff {x : Item} : x.asText = .ok s ↔ x = .text s := by
  cases x <;> simp [Item.asText]

/-- The text that is read for a named key is its entry. -/
theorem find?_texts (hkey : key ∈ names) : ∀ {es : List (String × Item)}
    {ts : List (String × String)}, texts names es = .ok ts →
      ((ts.find? (·.1 = key)).map Prod.snd = some s ↔
        (es.find? (·.1 = key)).map Prod.snd = some (.text s))
  | [],           ts, h => by
      cases h
      simp
  | (k, x) :: es, ts, h => by
      unfold texts at h
      split at h
      · obtain ⟨s', hx, h⟩ := exists_of_bind h
        obtain ⟨ts, hts, h⟩ := exists_of_bind h
        cases h
        rw [Item.asText_eq_ok_iff.mp hx]
        by_cases hk : k = key
        · simp [hk]
        · simpa [hk] using find?_texts hkey hts
      · next hnames =>
          have hk : k ≠ key := by
            rintro rfl
            exact hnames (List.contains_iff_mem.mpr hkey)
          simpa [hk] using find?_texts hkey h

end Toml

namespace Settings

variable {text key s : String}

/-- A document in a file of this extension gives a setting. -/
inductive Gives (ext text key s : String) : Prop where
  | toml {t : Toml.Table} (extension : ext = "toml")
      (document : Toml.Table.ofText text.toList = .ok t) (entry : t.get? key = some (.text s))
  | json {ms : Json.Fields} (extension : ext = "json")
      (document : Json.Says fields text ms) (entry : (key, some s) ∈ ms)

/-- The settings file gives a setting. -/
def FileGives (fs : FileSystem) (file : Option Path) (key s : String) : Prop :=
  ∃ p text, file = some p ∧ fs.readText p = .ok text ∧ Gives (extensionText p) text key s

/-- The settings are what these texts say, and these are the texts that are given. -/
def IsGiven (c : Settings) (Given : String → String → Prop) : Prop :=
  ∃ text? : String → Option String, c = ofTexts text? ∧
    ∀ key ∈ fields.map Json.Field.name, ∀ s, text? key = some s ↔ Given key s

theorem isGiven_of_parseToml {c : Settings} (h : parseToml text = .ok c) :
    IsGiven c (Gives "toml" text) := by
  unfold parseToml Toml.record at h
  cases document : Toml.Table.ofText text.toList with
  | error f => simp [document] at h
  | ok t =>
      rw [document] at h
      dsimp only at h
      split at h
      · cases h
      · next ts hts =>
          cases h
          refine ⟨_, rfl, fun key hkey s =>
            (Toml.find?_texts hkey hts).trans ⟨.toml rfl document, fun hgives => ?_⟩⟩
          cases hgives with
          | toml _ document' entry =>
              cases document.symm.trans document'
              exact entry
          | json extension => exact absurd extension (by decide)

theorem find?_bind_eq_some_iff {ms : Json.Fields} (hnodup : (ms.map Prod.fst).Nodup) :
    (ms.find? (·.1 = key)).bind Prod.snd = some s ↔ (key, some s) ∈ ms := by
  rw [Option.bind_eq_some_iff]
  constructor
  · rintro ⟨⟨k, t⟩, hfind, rfl⟩
    obtain ⟨hmem, rfl⟩ := (find?_eq_some_iff_of_nodup hnodup).mp hfind
    exact hmem
  · intro hmem
    exact ⟨(key, some s), (find?_eq_some_iff_of_nodup hnodup).mpr ⟨hmem, rfl⟩, rfl⟩

theorem isGiven_of_parseJson {c : Settings} (h : parseJson text = .ok c) :
    IsGiven c (Gives "json" text) := by
  unfold parseJson at h
  split at h
  · cases h
  · next ms hms =>
      cases h
      obtain ⟨document, hnodup⟩ := Json.says_of_record (by decide) hms
      refine ⟨_, rfl, fun key _ s =>
        (find?_bind_eq_some_iff hnodup).trans ⟨.json rfl document, fun hgives => ?_⟩⟩
      cases hgives with
      | toml extension => exact absurd extension (by decide)
      | json _ document' entry =>
          rw [document.unique document']
          exact entry

/-- **The settings that are loaded** are those that the file gives. -/
theorem isGiven_of_load {fs : FileSystem} {file : Option Path} {c : Settings}
    (h : load fs file = .ok c) : IsGiven c (FileGives fs file) := by
  cases file with
  | none =>
      cases h
      refine ⟨fun _ => none, rfl, fun key _ s => ⟨nofun, ?_⟩⟩
      rintro ⟨p, text, hnone, -, -⟩
      cases hnone
  | some p =>
      unfold load read at h
      cases htext : fs.readText p with
      | error e => simp [htext] at h
      | ok text =>
          have hgives (key s : String) :
              FileGives fs (some p) key s ↔ Gives (extensionText p) text key s := by
            simp [FileGives, htext]
          have hgiven : IsGiven c (Gives (extensionText p) text) := by
            simp only [htext] at h
            split at h
            · next hext => exact hext ▸ isGiven_of_parseToml h
            split at h
            · next hext => exact hext ▸ isGiven_of_parseJson h
            · cases h
          obtain ⟨text?, hc, htexts⟩ := hgiven
          exact ⟨text?, hc, fun key hkey s => (htexts key hkey s).trans (hgives key s).symm⟩

end Settings

end RecordingIndex
