import WorkQuery.Text.Pattern

/-!
# WorkQuery.Intent.Patterns

The ways in which people name what they look for. Words are found in any case.
-/

namespace WorkQuery
namespace Patterns

open Pattern

def anyWord (ws : List String) : Pattern := oneOf (ws.map word)

/-- Words one after another with blanks between them. -/
def phrase (ws : List String) : Pattern :=
  all ((ws.map word).intersperse (blanks 1))

/-- Text between double quotes, kept under a number. -/
def quoted (index least : Nat) : Pattern :=
  all [char '"', .capture index (.run (· != '"') least none), char '"']

/-- `#1234`. -/
def hashId : Pattern := all [char '#', .capture 1 (digits 1 9), .boundary]

/-- `items 5, 6 and #7`: a noun, then numbers. -/
def nounIds : Pattern :=
  all [.boundary,
    oneOf [word "ids", word "id", word "items", word "item", all [word "work", blanks 1, word "items"],
      all [word "work", blanks 1, word "item"], word "bugs", word "bug", word "tasks", word "task",
      word "tickets", word "ticket", word "stories"],
    blanks 1, optional (char '#'),
    .capture 1 (.seq (digits 1 9)
      (.many (all [blanks 0, oneOf [char ',', word "and"], blanks 0, optional (char '#'),
        digits 1 9]))),
    .boundary]

def number : Pattern := .capture 1 (.run Text.isDecimalDigit 1 none)

def priorityDigit : Pattern := one fun c => '1' ≤ c && c ≤ '4'

/-- `P1`, `priority 2` or `pri 1-2`. -/
def priority : Pattern :=
  all [.boundary, oneOf [all [word "priority", blanks 0], all [word "pri", blanks 0], word "p"],
    .capture 1 priorityDigit,
    optional (all [blanks 0, oneOf [char '-', word "to"], blanks 0, optional (word "p"),
      .capture 2 priorityDigit]),
    .boundary]

/-- A word, perhaps with an s at its end. -/
def plural (w : String) : Pattern := .seq (word w) (optional (word "s"))

/-- `last 7 days`. -/
def countedPeriod : Pattern :=
  all [.boundary, anyWord ["last", "past"], blanks 1, .capture 1 (digits 1 4), blanks 1,
    .capture 2 (oneOf [plural "day", plural "week", plural "month"]), .boundary]

/-- `yesterday`, `this week` or `last quarter`. -/
def namedPeriod : Pattern :=
  let unit := anyWord ["week", "month", "year", "quarter"]
  all [.boundary,
    .capture 1 (oneOf [word "today", word "yesterday", all [word "this", blanks 1, unit],
      all [anyWord ["last", "past", "previous"], blanks 1, unit]]),
    .boundary]

/-- A day in digits, kept under number one. -/
def dayInDigits : Pattern :=
  .capture 1 (all [digits 4 4, char '-', digits 2 2, char '-', digits 2 2])

/-- `since 2024-01-31`. -/
def sinceDate : Pattern :=
  all [.boundary, anyWord ["since", "after", "from"], blanks 1, dayInDigits, .boundary]

/-- `until 2024-01-31`. -/
def untilDate : Pattern :=
  all [.boundary, anyWord ["until", "before", "to", "through"], blanks 1, dayInDigits, .boundary]

/-- Words that tell of the creation of items. -/
def creation : Pattern :=
  all [.boundary, anyWord ["created", "opened", "filed", "reported", "new"], .boundary]

/-- A character of a tag or of a search word. -/
def isTagChar (c : Char) : Bool := Text.isWordChar c || c == '-'

/-- `tagged "a b"`, `tag 'a b'` or `tagged with ui`. -/
def tagged : Pattern :=
  all [.boundary, word "tag", optional (word "ged"), blanks 1,
    optional (all [word "with", blanks 1]),
    oneOf [quoted 1 1, all [char '\'', .capture 2 (.run (· != '\'') 1 none), char '\''],
      .capture 3 (.run isTagChar 1 none)]]

/-- `area path "A\B"` or `under "A\B"`. -/
def area : Pattern :=
  all [.boundary, oneOf [.seq (word "area") (optional (all [blanks 1, word "path"])), word "under"],
    blanks 1, quoted 1 1]

/-- `assigned to me` or `my bugs`. -/
def assignedToMe : Pattern :=
  all [.boundary,
    oneOf [phrase ["assigned", "to", "me"],
      all [word "my", blanks 1,
        anyWord ["bugs", "tasks", "items", "work", "stories", "tickets", "issues"]],
      word "mine"],
    .boundary]

/-- `assigned to "Ann"`. -/
def assignedToName : Pattern :=
  all [.boundary, phrase ["assigned", "to"], blanks 1, quoted 1 1]

/-- A phrase of two or more characters between double quotes. -/
def quotedPhrase : Pattern := quoted 1 2

/-- `mentioning login`. -/
def mentioning : Pattern :=
  all [.boundary, anyWord ["mentioning", "containing", "mentions"], blanks 1,
    .capture 1 (.seq
      (one fun c => c.isAlpha || c.toNat == 0x17F || c.toNat == 0x212A)
      (.run isTagChar 2 none)),
    .boundary]

/-- `in bullet points` or `under 200 words`. -/
def answerFormat : Pattern :=
  all [.boundary, anyWord ["in", "as", "under", "within", "using"], blanks 1,
    .capture 1 (oneOf [
      all [.run Text.isDecimalDigit 1 none, blanks 1,
        anyWord ["words", "bullets", "sentences", "paragraphs"]],
      .seq (optional (all [word "a", blanks 1]))
        (oneOf [
          all [word "bullet", optional (word "ed"), blanks 1, anyWord ["points", "list"]],
          word "table", word "markdown", phrase ["one", "paragraph"], phrase ["plain", "text"]])]),
    .boundary]

end Patterns
end WorkQuery
