import WorkQuery.Intent.Cues
import WorkQuery.Proofs.Text.Blocks

/-!
# WorkQuery.Proofs.Intent.CueWords

Cues are found by their words.

* `Cues.wordsIn`: the words of a text, said apart from the search for them.
* `Cues.StandsIn`: the words of a cue stand in a text one after another.
* `Cues.scan_standsIn`: these are the cues that are found, in the order of the list.
-/

namespace WorkQuery
namespace Cues

/-- The words of a text: its runs of letters, digits and apostrophes, in lowercase and without the
apostrophes at their ends. A run of apostrophes is no word. -/
def wordsIn (text : String) : List (List Char) :=
  let runs := (text.toList.splitOnP fun c => !(Text.isAlphanumeric c || c == '\'')).filter (· ≠ [])
  let bare := runs.map fun run => (run.dropWhile (· == '\'')).rdropWhile (· == '\'')
  (bare.filter (· ≠ [])).map Text.lowerChars

/-- Empty words may be dropped before the letters are made small. -/
theorem nonempty_map_lowerChars (pieces : List (List Char)) :
    ((pieces.map Text.lowerChars).filter fun word => !word.isEmpty) =
      (pieces.filter (· ≠ [])).map Text.lowerChars := by
  rw [List.filter_map]
  congr 2
  funext piece
  rw [Function.comp_apply, Bool.eq_iff_iff]
  simp [Text.lowerChars_eq_nil_iff]

theorem words_eq (text : String) : words text = wordsIn text := by
  have hnonempty : (fun piece : List Char => !piece.isEmpty) = fun piece => decide (piece ≠ []) := by
    funext piece
    cases piece <;> rfl
  rw [wordsIn, ← nonempty_map_lowerChars, List.map_map, ← hnonempty, ← Text.splitWhere_eq_splitOnP]
  rfl

/-! ## Words and the text around them -/

theorem isBlank_of_isWordPart {c : Char} (h : isWordPart c = true) : Text.isBlank c = false := by
  rw [Bool.eq_false_iff]
  intro hblank
  rw [isWordPart, Text.isAlphanumeric_of_isBlank hblank, Bool.false_or, beq_iff_eq] at h
  subst h
  exact absurd hblank (by decide)

/-- A word is not empty, and no blank is in it. -/
theorem word_chars {text : String} {w : List Char} (hw : w ∈ words text) :
    w ≠ [] ∧ ∀ d ∈ w, Text.isBlank d = false := by
  obtain ⟨hw, hne⟩ := List.mem_filter.mp hw
  obtain ⟨run, hrun, rfl⟩ := List.mem_map.mp hw
  obtain ⟨left, right, -, hchars, -⟩ := Text.mem_splitWhere (List.mem_filter.mp hrun).1
  refine ⟨by simpa using hne, fun d hd => Text.isBlank_of_mem_lowerChars (fun c hc => ?_) hd⟩
  have hmem : c ∈ run :=
    (List.dropWhile_sublist _).subset ((List.rdropWhile_prefix _ _).subset hc)
  exact isBlank_of_isWordPart (by simpa using hchars c hmem)

/-- The words of a text are what its padded form is cut into by blanks. -/
theorem splitNonempty_padded (text : String) :
    Text.splitNonempty Text.isBlank (padded text) = words text := by
  have hcut := Text.splitNonempty_padding (p := Text.isBlank) (c := ' ') (by decide)
    (fun w (hw : w ∈ words text) => word_chars hw) [] []
  rw [padded, ← Text.padding]
  simpa using hcut

theorem padded_all_isBlank_iff (text : String) :
    (padded text).all Text.isBlank = true ↔ words text = [] := by
  constructor
  · intro hblank
    rw [← splitNonempty_padded, Text.splitNonempty_eq_nil (List.all_eq_true.mp hblank)]
  · intro hnone
    rw [padded, hnone]
    decide

/-! ## Cues -/

/-- The cue has words, and in the text they stand one after another. -/
def StandsIn (cue text : String) : Prop := wordsIn cue ≠ [] ∧ wordsIn cue <:+: wordsIn text

instance (cue text : String) : Decidable (StandsIn cue text) :=
  inferInstanceAs (Decidable (_ ∧ _))

theorem occursIn_iff {cue text : String} :
    occursIn cue (padded text) = true ↔ StandsIn cue text := by
  rw [StandsIn, ← words_eq, ← words_eq, occursIn, Bool.and_eq_true, Bool.not_eq_true',
    Bool.eq_false_iff, ne_eq, padded_all_isBlank_iff, Text.containsBlock_iff]
  refine and_congr_right fun hne => ?_
  exact Text.padded_block_iff (p := Text.isBlank) (by decide) (fun w hw => word_chars hw)
    (fun w hw => word_chars hw) hne

/-- Of the cues that ask for an analysis or point back, those are reported whose words stand in the
utterance one after another, in the order of the lists. -/
theorem scan_standsIn (c : Cues) (utterance : String) :
    (c.scan utterance).analysis = c.analysis.filter (fun cue => StandsIn cue utterance) ∧
      (c.scan utterance).references = c.references.filter fun cue => StandsIn cue utterance := by
  have hfound : ∀ cues : List String, cues.filter (fun cue => occursIn cue (padded utterance)) =
      cues.filter fun cue => StandsIn cue utterance := by
    intro cues
    refine List.filter_congr fun cue _ => ?_
    rw [Bool.eq_iff_iff, occursIn_iff, decide_eq_true_iff]
  exact ⟨hfound c.analysis, hfound c.references⟩

/-- A reporter is no report, and quotes are not part of a cue. -/
example : (standard.scan "what the reporter said about 'those' bugs").references = ["those"] ∧
    (standard.scan "what the reporter said about 'those' bugs").analysis = [] := by
  decide +kernel

end Cues
end WorkQuery
