/-!
# Snake case

Event names and payload keys are written in snake case. A name is split before every ASCII capital
that neither begins it nor directly follows an underscore, so each capital starts a word of its own.
Only ASCII letters change case; every other character stays as it is.

Main statements: snake case changes nothing but the case of letters and the underscores added
before capitals (`words_cons_of_not_isUpper`, `words_cons_of_isUpper`).
-/

namespace EventTracking.Text

/-- The words of a text, with underscores between them and each letter changed by `letter`. The
character before the text decides whether a capital at its head is preceded by an underscore. -/
def words (letter : Char → Char) : Option Char → List Char → List Char
  | _, [] => []
  | before, c :: rest =>
    if c.isUpper && before.any (· != '_') then
      '_' :: letter c :: words letter (some c) rest
    else
      letter c :: words letter (some c) rest

/-- Snake case: `ButtonClicked` becomes `button_clicked` and `userId` becomes `user_id`. -/
def snakeCase (name : String) : String := String.ofList (words Char.toLower none name.toList)

/-- Screaming snake case: `ButtonClicked` becomes `BUTTON_CLICKED`. -/
def screamingCase (name : String) : String :=
  String.ofList (words Char.toUpper none name.toList)

/-- Nothing is added before a character that is no ASCII capital. -/
theorem words_cons_of_not_isUpper (letter : Char → Char) (before : Option Char) {c : Char}
    (rest : List Char) (h : c.isUpper = false) :
    words letter before (c :: rest) = letter c :: words letter (some c) rest := by
  simp [words, h]

/-- An underscore is added before a capital that follows anything but an underscore. -/
theorem words_cons_of_isUpper (letter : Char → Char) {before c : Char} (rest : List Char)
    (h : c.isUpper = true) (hb : before ≠ '_') :
    words letter (some before) (c :: rest) =
      '_' :: letter c :: words letter (some c) rest := by
  simp [words, h, hb]

/-- Nothing is added at the beginning of a name. -/
theorem words_none_cons (letter : Char → Char) (c : Char) (rest : List Char) :
    words letter none (c :: rest) = letter c :: words letter (some c) rest := by
  simp [words]

end EventTracking.Text
