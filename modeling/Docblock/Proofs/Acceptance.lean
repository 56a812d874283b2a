import Docblock.Config.Read

namespace Docblock

/-- A configuration that some value describes. -/
def Config.Accepted (config : Config) : Prop :=
  ∃ room value, Config.ofValue room value = .ok config

structure Markers.Filled (markers : Markers) : Prop where
  opening : markers.opening ≠ []
  closing : markers.closing ≠ []
  lineComment : markers.lineComment ≠ []
  doc : markers.doc ≠ []

theorem exists_of_bind_eq_ok {ε α β : Type} {first : Except ε α} {next : α → Except ε β}
    {result : β} (ok : (first >>= next) = .ok result) :
    ∃ value, first = .ok value ∧ next value = .ok result := by
  cases first with
  | error failure => cases ok
  | ok value => exact ⟨value, rfl, ok⟩

theorem Entries.text_ne_nil {scope name : String} {fallback text : Text} {entries : Entries}
    (filled : fallback ≠ []) (ok : Entries.text scope name fallback entries = .ok text) :
    text ≠ [] := by
  simp only [Entries.text] at ok
  split at ok
  · exact Except.ok.inj ok ▸ filled
  · split at ok
    · cases ok
    · rename_i nonempty _
      exact Except.ok.inj ok ▸ nonempty
    · cases ok

theorem Markers.filled_default : ({} : Markers).Filled := by
  constructor <;> decide

theorem Markers.filled_of_ofEntries {entries : Entries} {markers : Markers}
    (ok : Markers.ofEntries entries = .ok markers) : markers.Filled := by
  unfold Markers.ofEntries at ok
  obtain ⟨_, -, ok⟩ := exists_of_bind_eq_ok ok
  obtain ⟨opening, openingOk, ok⟩ := exists_of_bind_eq_ok ok
  obtain ⟨closing, closingOk, ok⟩ := exists_of_bind_eq_ok ok
  obtain ⟨lineComment, lineCommentOk, ok⟩ := exists_of_bind_eq_ok ok
  obtain ⟨doc, docOk, ok⟩ := exists_of_bind_eq_ok ok
  rw [← Except.ok.inj ok]
  exact ⟨Entries.text_ne_nil filled_default.opening openingOk,
    Entries.text_ne_nil filled_default.closing closingOk,
    Entries.text_ne_nil filled_default.lineComment lineCommentOk,
    Entries.text_ne_nil filled_default.doc docOk⟩

theorem Config.filled_of_ofEntries {room : Nat} {entries : Entries} {config : Config}
    (ok : Config.ofEntries room entries = .ok config) : config.markers.Filled := by
  unfold Config.ofEntries at ok
  obtain ⟨_, -, ok⟩ := exists_of_bind_eq_ok ok
  obtain ⟨continuation, -, ok⟩ := exists_of_bind_eq_ok ok
  obtain ⟨openTail, -, ok⟩ := exists_of_bind_eq_ok ok
  obtain ⟨newline, -, ok⟩ := exists_of_bind_eq_ok ok
  obtain ⟨encoding, -, ok⟩ := exists_of_bind_eq_ok ok
  obtain ⟨group, -, ok⟩ := exists_of_bind_eq_ok ok
  obtain ⟨markers, markersOk, ok⟩ := exists_of_bind_eq_ok ok
  obtain ⟨_, -, ok⟩ := exists_of_bind_eq_ok ok
  obtain ⟨sentinels, -, ok⟩ := exists_of_bind_eq_ok ok
  obtain ⟨_, -, ok⟩ := exists_of_bind_eq_ok ok
  obtain ⟨tags, -, ok⟩ := exists_of_bind_eq_ok ok
  rw [← Except.ok.inj ok]
  exact Markers.filled_of_ofEntries markersOk

theorem Config.Accepted.filled {config : Config} (accepted : config.Accepted) :
    config.markers.Filled := by
  obtain ⟨room, value, ok⟩ := accepted
  unfold Config.ofValue at ok
  split at ok
  · rw [← Except.ok.inj ok]
    exact Markers.filled_default
  · split at ok
    · exact filled_of_ofEntries ok
    · cases ok

end Docblock
