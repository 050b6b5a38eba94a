import WorkQuery.Proofs.Outcome
import WorkQuery.Proofs.Query.Lexes
import WorkQuery.Proofs.Spelling

/-!
# WorkQuery.Proofs.Query.Quoting

Text literals in a query text.

* `Quote.unescape_iff`: a text is unescaped exactly if it is the escaped form of a text, and then as
  that text.
* `LexState.tokens_literal`: a literal ends at its closing quote, whatever it holds and whatever
  stands after it, unless that is another quote.
* `Quote.escaped_literals`: the two together.
-/

namespace WorkQuery

namespace Quote

/-- Only the escaped form of a text is unescaped as that text. -/
theorem escapeChars_of_unescapeFrom {position : Nat} {cs out : List Char}
    (h : unescapeFrom position cs = .ok out) : escapeChars out = cs := by
  induction position, cs using unescapeFrom.induct generalizing out with
  | case1 position =>
    cases h
    rfl
  | case2 position rest ih =>
    rw [unescapeFrom] at h
    obtain ⟨more, hmore, rfl⟩ := map_ok_iff.mp h
    simpa [escapeChars] using ih hmore
  | case3 position rest hpair =>
    rw [unescapeFrom, if_pos rfl] at h
    · cases h
    · exact hpair
  | case4 position c rest hpair hc ih =>
    rw [unescapeFrom, if_neg hc] at h
    · obtain ⟨more, hmore, rfl⟩ := map_ok_iff.mp h
      simpa [escapeChars, hc] using ih hmore
    · exact hpair

theorem unescape_iff {body s : String} : unescape body = .ok s ↔ escape s = body := by
  constructor
  · intro h
    obtain ⟨out, hout, rfl⟩ := map_ok_iff.mp h
    rw [escape, String.toList_ofList, escapeChars_of_unescapeFrom hout, String.ofList_toList]
  · rintro rfl
    exact unescape_escape s

theorem unescape_error_iff {body : String} :
    (∃ position, unescape body = .error position) ↔ ∀ s, escape s ≠ body := by
  cases h : unescape body with
  | error position =>
    simp only [Except.error.injEq, exists_eq', true_iff]
    intro s hs
    rw [unescape_iff.mpr hs] at h
    cases h
  | ok s =>
    simp only [reduceCtorEq, exists_const, false_iff, not_forall, not_not]
    exact ⟨s, unescape_iff.mp h⟩

/-- A literal ends at its closing quote, unless another quote follows it. -/
theorem tokens_literal (s : String) {rest : List Char} (h : rest.head? ≠ some '\'') :
    LexState.between.tokens ((literal s).toList ++ rest) =
      (LexState.between.tokens rest).map (.literal (escape s) :: ·) := by
  rw [tokens_openLiteral, LexState.tokens_of_finish (finish_openLiteral s)]
  · rfl
  · intro c hc
    have hquote : c ≠ '\'' := by
      rintro rfl
      exact h hc
    rw [LexState.step, if_neg hquote]

/-- Texts and their escaped forms correspond one to one, and nothing else is unescaped. In a query
text a literal is one token, which holds the escaped form, and the text after it is split as it would
be alone. -/
theorem escaped_literals :
    (∀ s, unescape (escape s) = .ok s) ∧
    (∀ body s, unescape body = .ok s → escape s = body) ∧
    (∀ body, (∃ position, unescape body = .error position) ↔ ∀ s, escape s ≠ body) ∧
    ∀ s rest : String, rest.toList.head? ≠ some '\'' →
      Token.ofText (literal s ++ rest) =
        (Token.ofText rest).map (.literal (escape s) :: ·) := by
  refine ⟨unescape_escape, fun _ _ h => unescape_iff.mp h, fun _ => unescape_error_iff,
    fun s rest h => ?_⟩
  rw [Token.ofText, String.toList_append, tokens_literal s h, Token.ofText]

/-- Quotes at both ends of a text, and one in the text after its literal. -/
theorem escaped_literals_quoted :
    unescape "''n''" = .ok "'n'" ∧ escape "'n'" = "''n''" ∧
    " OR 'x'".toList.head? ≠ some '\'' ∧
    Token.ofText (literal "'n'" ++ " OR 'x'") =
      (Token.ofText " OR 'x'").map (.literal "''n''" :: ·) := by
  obtain ⟨-, hescaped, -, hliteral⟩ := escaped_literals
  have hread : unescape "''n''" = .ok "'n'" := rfl
  have hnext : " OR 'x'".toList.head? ≠ some '\'' := by decide
  exact ⟨hread, hescaped _ _ hread, hnext, hliteral _ _ hnext⟩

/-- With a quote after it a literal goes on. -/
example : Token.ofText (literal "a" ++ literal "b") = .ok [.literal "a''b"] := by decide

end Quote
end WorkQuery
