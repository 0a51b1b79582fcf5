import ControllerRemap.Proofs.Config.Decoding
import ControllerRemap.Proofs.Config.Equality
import ControllerRemap.Proofs.Toml.Tree
import Mathlib

/-! Reading a configuration back from its own text. It comes back whole, numbers and all, if every channel
in it is of a type that has names. A channel of another type, which a document can give by numbers, is
written as a literal that no reader takes, and with it the whole text is refused. -/

namespace ControllerRemap.Config

open Toml

theorem printable_toTable (c : Config) : Printable 4 c.toTable :=
  (spells_toTable rearrangement_arranged c).printable (by decide)
    (by simp [toTable, entry, Value.hasSection])

theorem read_text (c : Config) : Toml.read c.text.toList = some (arrangedTable c.toTable) := by
  rw [text, String.toList_ofList]
  exact read_render c.printable_toTable (by decide)

/-- The text of a configuration is read as the configuration, and as nothing else. -/
theorem parse_text_eq_ok_iff (c d : Config) :
    parse c.text = .ok d ↔ (∀ channel ∈ c.channels, channel.IsNamed) ∧ c = d := by
  have hnodup : (keys c.toTable).Nodup := c.nodup_keys_toTable
  have hrecovers : Recovers (ofTable (arrangedTable c.toTable)) c c.channels :=
    recovers_rearranged rearrangement_arranged c (nodup_keys_arrangedTable hnodup)
      (lookup_arrangedTable hnodup)
  rw [← hrecovers d, parse, read_text]
  simp only
  cases ofTable (arrangedTable c.toTable) with
  | error e => simp [Except.mapError]
  | ok d => simp [Except.mapError]

/-- What a configuration is written as gives back an equal configuration exactly if the configuration
holds no NaN and names only channels of named types. -/
theorem reads_back_iff (c : Config) :
    (∃ d, parse c.text = .ok d ∧ (c == d) = true) ↔
      (∀ x ∈ c.floats, x.isNaN = false) ∧ ∀ channel ∈ c.channels, channel.IsNamed := by
  have hself : (c == c) = true ↔ ∀ x ∈ c.floats, x.isNaN = false := by
    rw [c.beq_self, List.all_eq_true]
    simp only [isNumber, Bool.not_eq_true']
  constructor
  · rintro ⟨d, hparse, hequal⟩
    obtain ⟨hnamed, rfl⟩ := (c.parse_text_eq_ok_iff d).mp hparse
    exact ⟨hself.mp hequal, hnamed⟩
  · rintro ⟨hnumbers, hnamed⟩
    exact ⟨c, (c.parse_text_eq_ok_iff c).mpr ⟨hnamed, rfl⟩, hself.mpr hnumbers⟩

/-- A document that gives the channel of a button by two numbers. -/
def numberedButton : Table :=
  [("grab", .boolean true), ("layout", .table [("y_axis_down", .boolean true),
    ("btn_a", .table [("type", .integer 4), ("code", .integer 4)])])]

/-- What the document sets: a button on channel 4 of type 4, which has no tag of its own. -/
def miscButton : Config := { layout := { btnA := ⟨⟨4⟩, 4⟩ } }

theorem printable_numberedButton : Printable 3 numberedButton := by
  have hbutton : Printable 1 [("type", Value.integer 4), ("code", Value.integer 4)] :=
    .of_fits (by decide) (by decide) rfl (by simp [Value.Fits, Value.IsInline, Value.IsScalar])
  have hlayout : Printable 2 [("y_axis_down", Value.boolean true),
      ("btn_a", .table [("type", .integer 4), ("code", .integer 4)])] :=
    .of_fits (by decide) (by decide) rfl (by simp [Value.Fits, Value.IsInline, Value.IsScalar, hbutton])
  exact .of_fits (by decide) (by decide) rfl
    (by simp [numberedButton, Value.Fits, Value.IsInline, Value.IsScalar, hlayout])

theorem render_numberedButton : String.ofList (render numberedButton) =
    "grab = true\n\n[layout]\ny_axis_down = true\n\n[layout.btn_a]\ntype = 4\ncode = 4\n" := by
  have hsections : sectionsOf numberedButton =
      [⟨.none, [("grab", .boolean true)]⟩, ⟨.table ["layout"], [("y_axis_down", .boolean true)]⟩,
        ⟨.table ["layout", "btn_a"], [("type", .integer 4), ("code", .integer 4)]⟩] := rfl
  have hfour : Value.text (.integer 4) = ['4'] := by
    rw [Value.text]
    change Digits.digits 10 4 = _
    rw [Digits.digits, dif_neg (by decide)]
    rfl
  rw [render, hsections]
  simp only [List.map_cons, List.map_nil, Section.text, List.flatMap_cons, List.flatMap_nil, lineText, hfour]
  rfl

theorem parse_numberedButton : parse (String.ofList (render numberedButton)) = .ok miscButton := by
  have htable : arrangedTable numberedButton = numberedButton := rfl
  rw [parse, String.toList_ofList, read_render printable_numberedButton (by decide), htable]
  rfl

/-- A configuration that was read from a text and holds no NaN, but cannot be read from its own. -/
theorem not_reads_back_of_unnamed_type :
    parse "grab = true\n\n[layout]\ny_axis_down = true\n\n[layout.btn_a]\ntype = 4\ncode = 4\n" =
      .ok miscButton ∧ (∀ x ∈ miscButton.floats, x.isNaN = false) ∧
    ∀ d, parse miscButton.text ≠ .ok d := by
  refine ⟨render_numberedButton ▸ parse_numberedButton, by decide, fun d hparse => ?_⟩
  have hnamed := ((parse_text_eq_ok_iff miscButton d).mp hparse).1
  exact absurd (hnamed ⟨⟨4⟩, 4⟩ (by decide)) (by decide)

end ControllerRemap.Config
