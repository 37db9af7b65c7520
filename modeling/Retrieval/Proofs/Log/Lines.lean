import Retrieval.Log.State

/-! What log lines show. Whatever else stands in it, a line tells when it was written, and the level,
the target and the message of its event. -/
namespace Retrieval.Log

/-- A text that needs no escapes: its characters stand for themselves, in quotes and out of them. -/
def Plain (s : String) : Prop :=
  ∀ c ∈ s.toList, 0x20 ≤ c.toNat ∧ (c.toNat < 0x7f ∨ 0x9f < c.toNat) ∧ c ≠ '"' ∧ c ≠ '\\'

/-- Levels as they stand in lines of text, each with five characters. -/
def Level.column : Level → String
  | error => "ERROR"
  | warn => " WARN"
  | info => " INFO"
  | debug => "DEBUG"
  | trace => "TRACE"

/-- A line that tells of an event. What it says of fields and of work around the event is left open,
and so is how a text is written that needs escapes. -/
def Shows (time : String) (e : Event) (line : String) : Format → Prop
  | .text => ∃ work message fields, (Plain e.message → message = e.message) ∧
      line = time ++ " " ++ e.level.column ++ " " ++ work ++ e.target ++ ": " ++ message ++ fields
  | .json => ∃ moment message fields target work, (Plain time → moment = time) ∧
      (Plain e.message → message = e.message) ∧ (Plain e.target → target = e.target) ∧
      line = "\x7b\"timestamp\":\"" ++ moment ++ "\",\"level\":\"" ++ e.level.name ++
        "\",\"fields\":\x7b\"message\":\"" ++ message ++ "\"" ++ fields ++
        "\x7d,\"target\":\"" ++ target ++ "\"" ++ work ++ "\x7d"

/-- A text of lines, one for each event, in order. -/
def Lines (format : Format) (times : Nat → String) (entries : List Entry) (text : String) : Prop :=
  ∃ lines : List String, text = String.join (lines.map (· ++ "\n")) ∧
    lines.length = entries.length ∧
    ∀ i entry line, entries[i]? = some entry → lines[i]? = some line →
      Shows (times i) entry.event line format

/-- A plain text is written as it is. -/
theorem flatMap_of_plain {s : String} {write : Char → List Char} (h : Plain s)
    (hw : ∀ c, 0x20 ≤ c.toNat → (c.toNat < 0x7f ∨ 0x9f < c.toNat) → c ≠ '"' → c ≠ '\\' →
      write c = [c]) :
    String.ofList (s.toList.flatMap write) = s := by
  have hself : s.toList.map write = s.toList.map fun c => [c] := by
    refine List.map_congr_left fun c hc => ?_
    obtain ⟨hlow, hmiddle, hquote, hslash⟩ := h c hc
    exact hw c hlow hmiddle hquote hslash
  have hsame : s.toList.flatMap write = s.toList := by
    rw [List.flatMap_def, hself, ← List.flatMap_def, List.flatMap_singleton']
  rw [hsame, String.ofList_toList]

theorem messageText_of_plain {s : String} (h : Plain s) : messageText s = s := by
  refine flatMap_of_plain h fun c hlow hmiddle _ _ => ?_
  have hno : c ∉ ['\x1b', '\x07', '\x08', '\x0c', '\x7f'] := by
    intro hc
    simp only [List.mem_cons, List.not_mem_nil, or_false] at hc
    rcases hc with rfl | rfl | rfl | rfl | rfl
    all_goals revert hlow hmiddle
    all_goals decide
  have hout : ¬(0x80 ≤ c.toNat ∧ c.toNat ≤ 0x9f) := by omega
  rw [messageChar, if_neg hno, if_neg hout]

def jsonCharacters (s : String) : String := String.ofList (s.toList.flatMap Json.escapeChar)

theorem jsonCharacters_of_plain {s : String} (h : Plain s) : jsonCharacters s = s := by
  refine flatMap_of_plain h fun c hlow _ hquote hslash => ?_
  have hshort : ¬c.toNat < 0x20 := by omega
  -- Besides the quote and the backslash, the short escapes are for controls.
  unfold Json.escapeChar
  split
  case h_1 => exact absurd rfl hquote
  case h_2 => exact absurd rfl hslash
  case h_8 => exact if_neg hshort
  all_goals exact absurd hlow (by decide)

theorem jsonText_eq (s : String) : Json.renderText s = "\"" ++ jsonCharacters s ++ "\"" := by
  rw [← String.toList_inj]
  simp [Json.renderText, jsonCharacters]

/-- Whatever follows it, the first of several texts stands at the beginning. -/
theorem exists_intercalate (mark first : String) (rest : List String) :
    ∃ more, mark.intercalate (first :: rest) = first ++ more := by
  cases rest with
  | nil => exact ⟨"", by simp⟩
  | cons second others =>
    exact ⟨mark ++ mark.intercalate (second :: others), by simp [String.append_assoc]⟩

theorem renderLevel_eq (l : Level) : renderLevel l = l.column := by
  cases l <;> rfl

theorem shows_text (time : String) (entry : Entry) :
    Shows time entry.event (renderText time entry) .text := by
  let work := if entry.spans.isEmpty then "" else String.join (entry.spans.map renderSpan) ++ " "
  obtain ⟨fields, hfields⟩ := exists_intercalate " " (messageText entry.event.message)
    (renderFields entry.event.fields)
  refine ⟨work, messageText entry.event.message, fields, messageText_of_plain, ?_⟩
  simp only [renderText, renderLevel_eq, hfields, String.append_assoc, work]

theorem jsonText_level (l : Level) : Json.renderText l.name = "\"" ++ l.name ++ "\"" := by
  cases l <;> decide

/-- A line of JSON shows its event. -/
theorem shows_json (time : String) (entry : Entry) :
    Shows time entry.event (toJson time entry).render .json := by
  obtain ⟨fields, hfields⟩ := exists_intercalate ","
    (Json.renderText "message" ++ ":" ++ Json.renderText entry.event.message)
    (Json.renderMembers (fieldMembers entry.event.fields))
  obtain ⟨work, hwork⟩ : ∃ work : List (String × Json), toJson time entry = .object
      (("timestamp", .text time) :: ("level", .text entry.event.level.name) ::
        ("fields", .object (("message", .text entry.event.message) ::
          fieldMembers entry.event.fields)) ::
        ("target", .text entry.event.target) :: work) := ⟨_, rfl⟩
  obtain ⟨rest, hrest⟩ := exists_intercalate ","
    (Json.renderText "target" ++ ":" ++ Json.renderText entry.event.target)
    (Json.renderMembers work)
  refine ⟨jsonCharacters time, jsonCharacters entry.event.message, fields,
    jsonCharacters entry.event.target, rest, jsonCharacters_of_plain, jsonCharacters_of_plain,
    jsonCharacters_of_plain, ?_⟩
  have hkeys : Json.renderText "timestamp" = "\"timestamp\"" ∧
      Json.renderText "level" = "\"level\"" ∧ Json.renderText "fields" = "\"fields\"" ∧
      Json.renderText "message" = "\"message\"" ∧ Json.renderText "target" = "\"target\"" := by
    decide
  simp only [hkeys, jsonText_eq entry.event.message, jsonText_eq entry.event.target] at hfields hrest
  simp only [hwork, Json.render, Json.renderMembers, String.intercalate_cons_cons, hkeys,
    jsonText_level, jsonText_eq time, jsonText_eq entry.event.message,
    jsonText_eq entry.event.target, hrest, hfields]
  -- Both sides are the same characters, grouped in different ways.
  rw [← String.toList_inj]
  simp

theorem lines_renderLines (format : Format) (times : Nat → String) (entries : List Entry) :
    Lines format times entries (State.renderLines format times entries) := by
  refine ⟨entries.mapIdx fun i entry => renderLine format (times i) entry, rfl,
    List.length_mapIdx, ?_⟩
  intro i entry line hentry hline
  rw [List.getElem?_mapIdx, hentry] at hline
  cases hline
  cases format with
  | text => exact shows_text (times i) entry
  | json => exact shows_json (times i) entry

end Retrieval.Log
