import WorkQuery.Proofs.Text
import WorkQuery.Query.Lexer
import WorkQuery.Query.Quote

/-!
# WorkQuery.Proofs.Query.Lexes

Splitting distributes over the pieces that a query text is put together from:

* `Lexes cs ts`: whatever may follow a piece (`Closes`), the characters `cs` are split into the
  tokens `ts` and nothing of the text after them is touched.
* `Lexes.space`, `Lexes.comma`, `Lexes.parens`, `Lexes.join`: pieces put together are split into
  the tokens of the pieces.
* `lexes_word`, `lexes_number`, `lexes_field`, `lexes_literal`: the pieces themselves. A literal is
  one token whatever text it holds.
-/

namespace WorkQuery

open LexState

namespace LexState

theorem tokens_cons {s next : LexState} {c : Char} {done : List Token}
    (h : s.step c = .ok (done, next)) (rest : List Char) :
    s.tokens (c :: rest) = (next.tokens rest).map (done ++ ·) := by
  rw [tokens, h]
  simp only []
  cases next.tokens rest <;> rfl

theorem tokens_cons_nil {s next : LexState} {c : Char} (h : s.step c = .ok ([], next))
    (rest : List Char) : s.tokens (c :: rest) = next.tokens rest := by
  rw [tokens_cons h]
  cases next.tokens rest <;> rfl

theorem tokens_run (opened : List Char → LexState) {p : Char → Bool}
    (hp : ∀ rev c, p c = true → (opened rev).step c = .ok ([], opened (c :: rev))) (rest : List Char) :
    ∀ (cs : List Char) (rev : List Char), cs.all p = true →
      (opened rev).tokens (cs ++ rest) = (opened (cs.reverse ++ rev)).tokens rest := by
  intro cs
  induction cs with
  | nil => intro rev _; rfl
  | cons c cs ih =>
    intro rev h
    simp only [List.all_cons, Bool.and_eq_true] at h
    rw [List.cons_append, tokens_cons_nil (hp rev c h.1), ih (c :: rev) h.2]
    simp

/-- The open token ends where the next character begins anew. -/
theorem tokens_of_finish {s : LexState} {done : List Token} (hs : s.finish = .ok done)
    {rest : List Char} (hr : ∀ c ∈ rest.head?, s.step c = s.restart c) :
    s.tokens rest = (between.tokens rest).map (done ++ ·) := by
  cases rest with
  | nil =>
    rw [tokens, tokens, hs]
    simp [finish, Except.map]
  | cons c rest =>
    have hc : s.step c = s.restart c := hr c rfl
    have hb : between.step c = start c := rfl
    rw [tokens, tokens, hc, hb, restart, hs]
    cases start c with
    | error fault => rfl
    | ok r =>
      obtain ⟨ts, next⟩ := r
      simp only []
      cases next.tokens rest with
      | error fault => rfl
      | ok more => simp [Except.map]

end LexState

/-- What may follow a piece: nothing, a space, a comma or a closing parenthesis. -/
def Closes (rest : List Char) : Prop := ∀ c ∈ rest.head?, c = ' ' ∨ c = ')' ∨ c = ','

/-- The characters are split into these tokens, whatever follows them that may follow a piece. -/
def Lexes (cs : List Char) (ts : List Token) : Prop :=
  ∀ rest, Closes rest → between.tokens (cs ++ rest) = (between.tokens rest).map (ts ++ ·)

theorem closes_nil : Closes [] := by intro c h; cases h

theorem closes_space (rest : List Char) : Closes (' ' :: rest) := by
  intro c h; cases h; exact .inl rfl

theorem closes_paren (rest : List Char) : Closes (')' :: rest) := by
  intro c h; cases h; exact .inr (.inl rfl)

theorem closes_comma (rest : List Char) : Closes (',' :: rest) := by
  intro c h; cases h; exact .inr (.inr rfl)

/-- A piece that leaves a token open is split into that token. -/
theorem lexes_of_open {cs : List Char} {s : LexState} {done : List Token}
    (hcs : ∀ rest, between.tokens (cs ++ rest) = s.tokens rest) (hs : s.finish = .ok done)
    (hend : ∀ c, c = ' ' ∨ c = ')' ∨ c = ',' → s.step c = s.restart c) : Lexes cs done := by
  intro rest hr
  rw [hcs rest]
  exact tokens_of_finish hs fun c hc => hend c (hr c hc)

theorem Lexes.ofText {s : String} {ts : List Token} (h : Lexes s.toList ts) :
    Token.ofText s = .ok ts := by
  have := h [] closes_nil
  rw [List.append_nil] at this
  rw [Token.ofText, this]
  simp [tokens, finish, Except.map]

theorem lexes_nil : Lexes [] [] := by
  intro rest _
  simp only [List.nil_append]
  cases between.tokens rest <;> rfl

namespace Lexes

variable {as bs : List Char} {ts us : List Token}

theorem mark {c : Char} {done : List Token} (h : start c = .ok (done, .between)) (cs : List Char) :
    between.tokens (c :: cs) = (between.tokens cs).map (done ++ ·) := tokens_cons (s := .between) h cs

theorem space (ha : Lexes as ts) (hb : Lexes bs us) : Lexes (as ++ ' ' :: bs) (ts ++ us) := by
  intro rest hr
  have hs : start ' ' = .ok ([], .between) := rfl
  have hcs : as ++ ' ' :: bs ++ rest = as ++ ' ' :: (bs ++ rest) := by simp
  rw [hcs, ha _ (closes_space _), mark hs, hb rest hr]
  cases between.tokens rest <;> simp [Except.map]

theorem comma (ha : Lexes as ts) (hb : Lexes bs us) :
    Lexes (as ++ ',' :: ' ' :: bs) (ts ++ .comma :: us) := by
  intro rest hr
  have hs : start ' ' = .ok ([], .between) := rfl
  have hc : start ',' = .ok ([.comma], .between) := rfl
  have hcs : as ++ ',' :: ' ' :: bs ++ rest = as ++ ',' :: ' ' :: (bs ++ rest) := by simp
  rw [hcs, ha _ (closes_comma _), mark hc, mark hs, hb rest hr]
  cases between.tokens rest <;> simp [Except.map]

theorem parens (ha : Lexes as ts) :
    Lexes ('(' :: as ++ [')']) (.leftParen :: ts ++ [.rightParen]) := by
  intro rest hr
  have ho : start '(' = .ok ([.leftParen], .between) := rfl
  have hc : start ')' = .ok ([.rightParen], .between) := rfl
  have hcs : '(' :: as ++ [')'] ++ rest = '(' :: (as ++ ')' :: rest) := by simp
  rw [hcs, mark ho, ha _ (closes_paren _), mark hc]
  cases between.tokens rest <;> simp [Except.map]

end Lexes

theorem Lexes.sign {c : Char} (h : c = '+' ∨ c = '-') {as : List Char} {ts : List Token}
    (ha : Lexes as ts) : Lexes (c :: as) (.symbol (String.ofList [c]) :: ts) := by
  intro rest hr
  have hc : start c = .ok ([.symbol (String.ofList [c])], .between) := by
    rcases h with rfl | rfl <;> rfl
  rw [List.cons_append, Lexes.mark hc, ha rest hr]
  cases between.tokens rest <;> simp [Except.map]

/-- Tokens of pieces, with the tokens `sep` between them. -/
def joinTokens (sep : List Token) : List (List Token) → List Token
  | [] => []
  | [ts] => ts
  | ts :: more => ts ++ sep ++ joinTokens sep more

theorem joinTokens_cons_cons (sep ts us : List Token) (more : List (List Token)) :
    joinTokens sep (ts :: us :: more) = ts ++ sep ++ joinTokens sep (us :: more) := rfl

/-- The first piece, then the others with the separator in front of each. -/
theorem joinTokens_cons (sep ts : List Token) (more : List (List Token)) :
    joinTokens sep (ts :: more) = ts ++ more.flatMap (sep ++ ·) := by
  induction more generalizing ts with
  | nil => simp [joinTokens]
  | cons us more ih =>
    rw [joinTokens_cons_cons, ih, List.flatMap_cons]
    simp only [List.append_assoc]

/-- What holds of pieces and of the separator holds of the pieces joined, if it holds of tokens put
one after another. -/
theorem joinTokens_closed {P : List Token → Prop} (hnil : P [])
    (happend : ∀ {ts us}, P ts → P us → P (ts ++ us)) {sep : List Token} (hsep : P sep) :
    ∀ {pieces : List (List Token)}, (∀ ts ∈ pieces, P ts) → P (joinTokens sep pieces) := by
  intro pieces
  induction pieces with
  | nil => exact fun _ => hnil
  | cons ts more ih =>
    intro h
    cases more with
    | nil => exact h ts (by simp)
    | cons us more =>
      exact happend (happend (h ts (by simp)) hsep) (ih fun vs hv => h vs (by simp [hv]))

theorem Lexes.join {α : Type} (sep : List Char) (sepTokens : List Token) {text : α → List Char}
    {toTokens : α → List Token}
    (hsep : ∀ {as bs ts us}, Lexes as ts → Lexes bs us →
      Lexes (as ++ sep ++ bs) (ts ++ sepTokens ++ us)) :
    ∀ pieces : List α, (∀ a ∈ pieces, Lexes (text a) (toTokens a)) →
      Lexes (Text.joinChars sep (pieces.map text)) (joinTokens sepTokens (pieces.map toTokens)) := by
  intro pieces
  induction pieces with
  | nil => intro _; exact lexes_nil
  | cons a more ih =>
    intro h
    have ha := h a (by simp)
    have hmore := ih fun b hb => h b (by simp [hb])
    cases more with
    | nil => exact ha
    | cons b more => exact hsep ha hmore

/-! ## Pieces -/

theorem lexes_word {c : Char} {cs : List Char} (hc : start c = .ok ([], .inWord [c]))
    (hcs : cs.all isWordRest = true) :
    Lexes (c :: cs) [.word (String.ofList (c :: cs))] := by
  refine lexes_of_open (s := .inWord (cs.reverse ++ [c])) ?_ (by simp [finish, textOf]) ?_
  · intro rest
    rw [List.cons_append, tokens_cons_nil (s := .between) hc]
    exact tokens_run .inWord (fun rev d hd => by simp [step, hd]) rest cs [c] hcs
  · rintro d (rfl | rfl | rfl) <;> rfl

/-- A number: a digit, then digits and points. -/
def IsNumberText (cs : List Char) : Prop :=
  ∃ c rest, cs = c :: rest ∧ c.isDigit = true ∧ rest.all (fun d => d.isDigit || d == '.') = true

theorem start_digit {c : Char} (h : c.isDigit = true) : start c = .ok ([], .inNumber [c]) := by
  have hc := isDigit_cases h
  simp only [List.mem_cons, List.not_mem_nil, or_false] at hc
  rcases hc with rfl | rfl | rfl | rfl | rfl | rfl | rfl | rfl | rfl | rfl <;> rfl

theorem lexes_number {cs : List Char} (h : IsNumberText cs) :
    Lexes cs [.number (String.ofList cs)] := by
  obtain ⟨c, cs, rfl, hc, hcs⟩ := h
  refine lexes_of_open (s := .inNumber (cs.reverse ++ [c])) ?_ (by simp [finish, textOf]) ?_
  · intro rest
    rw [List.cons_append, tokens_cons_nil (s := .between) (start_digit hc)]
    exact tokens_run .inNumber (fun rev d hd => by simp only [step, hd]; rfl) rest cs [c] hcs
  · rintro d (rfl | rfl | rfl) <;> rfl

theorem lexes_atName {cs : List Char} (h : cs.all Char.isAlphanum = true) :
    Lexes ('@' :: cs) [.atName (String.ofList ('@' :: cs))] := by
  refine lexes_of_open (s := .inAtName (cs.reverse ++ ['@'])) ?_ (by simp [finish, textOf]) ?_
  · intro rest
    have hs : start '@' = .ok ([], .inAtName ['@']) := rfl
    rw [List.cons_append, tokens_cons_nil (s := .between) hs]
    exact tokens_run .inAtName (fun rev d hd => by simp [step, hd]) rest cs ['@'] h
  · rintro d (rfl | rfl | rfl) <;> rfl

theorem lexes_symbol {c : Char} {cs : List Char} (hc : start c = .ok ([], .inSymbol [c]))
    (hcs : cs.all isSymbolChar = true)
    (hop : (inSymbol (cs.reverse ++ [c])).finish = .ok [.symbol (String.ofList (c :: cs))]) :
    Lexes (c :: cs) [.symbol (String.ofList (c :: cs))] := by
  refine lexes_of_open (s := .inSymbol (cs.reverse ++ [c])) ?_ hop ?_
  · intro rest
    rw [List.cons_append, tokens_cons_nil (s := .between) hc]
    exact tokens_run .inSymbol (fun rev d hd => by simp [step, hd]) rest cs [c] hcs
  · rintro d (rfl | rfl | rfl) <;> simp [step, isSymbolChar]

/-- A reference stands in brackets as it is, if it has none itself. -/
theorem lexes_field {cs : List Char} (h : cs.all (fun c => c != '[' && c != ']') = true) :
    Lexes ('[' :: cs ++ [']']) [.field (String.ofList cs)] := by
  intro rest _
  have hs : start '[' = .ok ([], .inField []) := rfl
  have hrun : ∀ rev c, (c != '[' && c != ']') = true →
      (inField rev).step c = .ok ([], inField (c :: rev)) := by
    intro rev c hc
    simp only [Bool.and_eq_true, bne_iff_ne, ne_eq] at hc
    simp [step, hc.1, hc.2]
  have hcs : '[' :: cs ++ [']'] ++ rest = '[' :: (cs ++ ']' :: rest) := by simp
  have hend : (inField (cs.reverse ++ [])).step ']' = .ok ([.field (String.ofList cs)], .between) := by
    simp [step, textOf]
  rw [hcs, tokens_cons_nil (s := .between) hs, tokens_run .inField hrun (']' :: rest) cs [] h,
    tokens_cons hend]

/-- Within a literal, an escaped text is read up to its end: no quote in it ends the literal. -/
theorem tokens_escapeChars (rest : List Char) :
    ∀ (cs rev : List Char), (inLiteral rev).tokens (Quote.escapeChars cs ++ rest)
      = (inLiteral ((Quote.escapeChars cs).reverse ++ rev)).tokens rest := by
  intro cs
  induction cs with
  | nil => intro rev; rfl
  | cons c cs ih =>
    intro rev
    by_cases hc : c = '\''
    · -- a quote is written twice: the first might end the literal, the second shows that it does not
      have he : Quote.escapeChars (c :: cs) = '\'' :: '\'' :: Quote.escapeChars cs := by
        simp [Quote.escapeChars, hc]
      have h1 : (inLiteral rev).step '\'' = .ok ([], .afterQuote rev) := rfl
      have h2 : (afterQuote rev).step '\'' = .ok ([], .inLiteral ('\'' :: '\'' :: rev)) := rfl
      rw [he, List.cons_append, List.cons_append, tokens_cons_nil h1, tokens_cons_nil h2, ih]
      simp
    · have he : Quote.escapeChars (c :: cs) = c :: Quote.escapeChars cs := by
        simp [Quote.escapeChars, hc]
      have h1 : (inLiteral rev).step c = .ok ([], .inLiteral (c :: rev)) := by simp [step, hc]
      rw [he, List.cons_append, tokens_cons_nil h1, ih]
      simp

/-- A literal leaves its token open at the closing quote. -/
theorem tokens_openLiteral (s : String) (rest : List Char) :
    between.tokens ((Quote.literal s).toList ++ rest)
      = (afterQuote (Quote.escapeChars s.toList).reverse).tokens rest := by
  have hcs : (Quote.literal s).toList ++ rest
      = '\'' :: (Quote.escapeChars s.toList ++ '\'' :: rest) := by
    simp [Quote.literal, Quote.escape]
  have hs : start '\'' = .ok ([], .inLiteral []) := rfl
  have hq : ∀ rev, (inLiteral rev).step '\'' = .ok ([], .afterQuote rev) := fun _ => rfl
  rw [hcs, tokens_cons_nil (s := .between) hs, tokens_escapeChars, tokens_cons_nil (hq _)]
  simp

theorem finish_openLiteral (s : String) :
    (afterQuote (Quote.escapeChars s.toList).reverse).finish = .ok [.literal (Quote.escape s)] := by
  simp [finish, textOf, Quote.escape]

/-- A literal is one token, whose body is the escaped text. -/
theorem lexes_literal (s : String) : Lexes (Quote.literal s).toList [.literal (Quote.escape s)] := by
  refine lexes_of_open (tokens_openLiteral s) (finish_openLiteral s) ?_
  rintro d (rfl | rfl | rfl) <;> rfl

/-! ## Numbers of a text -/

/-- A number that the characters read so far leave open is one. -/
def HoldsNumber : LexState → Prop
  | .inNumber rev => IsNumberText rev.reverse
  | _ => True

/-- A number is one that a text can have. -/
def Token.IsNumbered : Token → Prop
  | .number n => IsNumberText n.toList
  | _ => True

/-- What reading a character yields, if it yields something, keeps the numbers numbers. -/
def KeepsNumbers (r : Except ConditionFault (List Token × LexState)) : Prop :=
  ∀ ts s, r = .ok (ts, s) → (∀ t ∈ ts, t.IsNumbered) ∧ HoldsNumber s

theorem keepsNumbers_ok {ts : List Token} {s : LexState} (hts : ∀ t ∈ ts, t.IsNumbered)
    (hs : HoldsNumber s) : KeepsNumbers (.ok (ts, s)) := by
  intro _ _ h; cases h; exact ⟨hts, hs⟩

theorem keepsNumbers_error (fault : ConditionFault) : KeepsNumbers (.error fault) := by
  intro _ _ h; cases h

theorem KeepsNumbers.ite {p : Prop} [Decidable p] {a b : Except ConditionFault (List Token × LexState)}
    (ha : p → KeepsNumbers a) (hb : KeepsNumbers b) : KeepsNumbers (if p then a else b) := by
  by_cases h : p
  · rw [if_pos h]; exact ha h
  · rw [if_neg h]; exact hb

theorem start_numbered (c : Char) : KeepsNumbers (start c) := by
  unfold start
  repeat' refine .ite (fun hc => ?_) ?_
  all_goals
    first
      | exact keepsNumbers_error _
      | exact keepsNumbers_ok (by simp [Token.IsNumbered]) trivial
      | exact keepsNumbers_ok (by simp) ⟨c, [], rfl, hc, rfl⟩

theorem finish_numbered {s : LexState} {ts : List Token} (hs : HoldsNumber s)
    (h : s.finish = .ok ts) : ∀ t ∈ ts, t.IsNumbered := by
  cases s with
  | inNumber rev =>
    cases h
    simpa [Token.IsNumbered, textOf, HoldsNumber] using hs
  | inSymbol rev =>
    simp only [finish] at h
    split at h <;> cases h
    simp [Token.IsNumbered]
  | between | inField rev | inLiteral rev | afterQuote rev | inWord rev | inAtName rev =>
    cases h <;> simp [Token.IsNumbered]

theorem restart_numbered {s : LexState} (hs : HoldsNumber s) (c : Char) :
    KeepsNumbers (s.restart c) := by
  rw [restart]
  cases hfinish : s.finish with
  | error fault => exact keepsNumbers_error fault
  | ok done =>
    cases hc : start c with
    | error fault => exact keepsNumbers_error fault
    | ok r =>
      obtain ⟨hmore, hnext⟩ := start_numbered c r.1 r.2 hc
      refine keepsNumbers_ok (fun t ht => ?_) hnext
      rcases List.mem_append.mp ht with ht | ht
      · exact finish_numbered hs hfinish t ht
      · exact hmore t ht

theorem step_numbered {s : LexState} (hs : HoldsNumber s) (c : Char) : KeepsNumbers (s.step c) := by
  have hrestart := restart_numbered hs c
  cases s with
  | between => exact start_numbered c
  | inNumber rev =>
    rw [step]
    apply KeepsNumbers.ite
    · intro hc
      obtain ⟨d, ds, hrev, hd, hds⟩ := hs
      refine keepsNumbers_ok (by simp) ⟨d, ds ++ [c], by simp [hrev], hd, ?_⟩
      rw [List.all_append, hds]
      simpa using hc
    · exact hrestart
  | inField rev | inLiteral rev =>
    rw [step]
    repeat' refine .ite (fun _ => ?_) ?_
    all_goals
      first
        | exact keepsNumbers_error _
        | exact keepsNumbers_ok (by simp [Token.IsNumbered]) trivial
  | afterQuote rev | inWord rev | inAtName rev | inSymbol rev =>
    rw [step]
    apply KeepsNumbers.ite
    · intro _
      exact keepsNumbers_ok (by simp) trivial
    · exact hrestart

theorem tokens_numbered : ∀ (cs : List Char) {s : LexState} {ts : List Token},
    HoldsNumber s → s.tokens cs = .ok ts → ∀ t ∈ ts, t.IsNumbered := by
  intro cs
  induction cs with
  | nil => intro s ts hs h; exact finish_numbered hs h
  | cons c cs ih =>
    intro s ts hs h
    rw [tokens] at h
    split at h
    · cases h
    · rename_i done next hstep
      obtain ⟨hdone, hnext⟩ := step_numbered hs c _ _ hstep
      split at h
      · cases h
      · rename_i more hmore
        cases h
        intro t ht
        rcases List.mem_append.mp ht with ht | ht
        · exact hdone t ht
        · exact ih hnext hmore t ht

/-- The numbers among the tokens of a text begin with a digit and have no other sign than points. -/
theorem Token.ofText_numbered {text : String} {ts : List Token} (h : Token.ofText text = .ok ts) :
    ∀ t ∈ ts, t.IsNumbered := tokens_numbered _ (s := .between) trivial h

end WorkQuery
