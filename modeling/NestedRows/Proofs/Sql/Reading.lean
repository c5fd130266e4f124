import NestedRows.Query.Statement
import NestedRows.Proofs.Decimal.Notation
/-!
# Statements read back

The text of a statement, read by the lexical rules of SQL, gives the tokens that it was written from
(`Query.read_render`). So nothing that a name or a text holds, be it a quotation mark, a line end or what
looks like a comment, is read as anything but a part of it.

Reading has two stages. A walk over the characters cuts the text into words, names, texts, numbers and
signs; blanks and comments only separate them. Then the words are understood, of which some belong
together. The reader takes what the dialects have in common, so it does not know which of them wrote the
text, and a conversion that is not written or a truth value that is a number is read as such
(`Token.readAs`).

That tokens do not run together is a matter of what stands behind each. A word or a number ends at a
blank, a comma, a parenthesis or a colon, and this is what follows them everywhere in a statement.
-/

namespace NestedRows.Sql

/-! ### Cutting the text -/

/-- A word of the language. -/
inductive Word where
  | SELECT
  | FROM
  | WHERE
  | AND
  | AS
  | ON
  | JOIN
  | LEFT
  | ORDER
  | BY
  | ASC
  | IN
  | NULL
  | TRUE
  | FALSE
  | TEXT
  | DOUBLE
  | PRECISION

/-- The word that letters of any case stand for. -/
def Word.ofLetters? (letters : List Char) : Option Word :=
  match String.ofList (letters.map Char.toUpper) with
  | "SELECT" => some SELECT
  | "FROM" => some FROM
  | "WHERE" => some WHERE
  | "AND" => some AND
  | "AS" => some AS
  | "ON" => some ON
  | "JOIN" => some JOIN
  | "LEFT" => some LEFT
  | "ORDER" => some ORDER
  | "BY" => some BY
  | "ASC" => some ASC
  | "IN" => some IN
  | "NULL" => some NULL
  | "TRUE" => some TRUE
  | "FALSE" => some FALSE
  | "TEXT" => some TEXT
  | "DOUBLE" => some DOUBLE
  | "PRECISION" => some PRECISION
  | _ => none

/-- A piece of a text. -/
inductive Lexeme where
  | word (w : Word)
  /-- What stands between double marks. -/
  | name (s : String)
  /-- What stands between single marks. -/
  | text (s : String)
  | number (l : Literal)
  | comma
  | dot
  | openParen
  | closeParen
  | equals
  | colons

/-- The number that is written down, a whole one if there are only digits. -/
def number? (letters : List Char) : Option Literal :=
  let (negative, digits) := Binary64.splitSign letters
  if digits.all Char.isDigit then
    some (.int (if negative then -(digitsValue digits : Int) else digitsValue digits))
  else (Binary64.ofText? (String.ofList letters)).map .float

/-- Where the walk over the characters stands. Characters are collected last first. -/
inductive Lexing where
  | between
  /-- Behind a dash, which begins a comment or a number. -/
  | dash
  /-- In a comment, which runs to the end of the line. -/
  | comment
  | colon
  | colons
  /-- Between marks. -/
  | quoted (mark : Char) (done : List Char)
  /-- Behind a second mark, which is the last one or belongs to what is quoted. -/
  | behind (mark : Char) (done : List Char)
  | word (done : List Char)
  | number (done : List Char)

namespace Lexing

/-- Whether the character belongs to the word in front of it. A mark does, since a word right in front
of a mark changes what the mark means; so these are read as no word at all. -/
def isWordPart (c : Char) : Bool := c.isAlphanum || c = '_' || c = '"' || c = '\''

/-- Whether the character belongs to the number in front of it. A sign does behind an exponent's
letter. -/
def isNumberPart (done : List Char) (c : Char) : Bool :=
  c.isAlphanum || c = '.' || c = '_' ||
    ((c = '-' || c = '+') && done.head?.any fun e => e = 'e' || e = 'E')

/-- The state behind a character that goes on with what is being read. -/
def goOn? : Lexing → Char → Option Lexing
  | between, _ => none
  | dash, c =>
    if c = '-' then some comment else if c.isDigit then some (number [c, '-']) else none
  | comment, c => some (if c = '\n' then between else comment)
  | colon, c => if c = ':' then some colons else none
  | colons, _ => none
  | quoted mark done, c => some (if c = mark then behind mark done else quoted mark (c :: done))
  | behind mark done, c => if c = mark then some (quoted mark (c :: done)) else none
  | word done, c => if isWordPart c then some (word (c :: done)) else none
  | number done, c => if isNumberPart done c then some (number (c :: done)) else none

/-- What has been read if it ends here. -/
def ended? : Lexing → Option (List Lexeme)
  | between => some []
  | comment => some []
  | colons => some [.colons]
  | behind mark done =>
    let s := String.ofList done.reverse
    some [if mark = '"' then .name s else .text s]
  | word done => (Word.ofLetters? done.reverse).map fun w => [.word w]
  | number done => (number? done.reverse).map fun l => [.number l]
  | _ => none

/-- The state behind a character that begins something, and the sign that it is. -/
def start? (c : Char) : Option (Lexing × List Lexeme) :=
  if c.isWhitespace then some (between, [])
  else if c = '"' || c = '\'' then some (quoted c [], [])
  else if c = '-' then some (dash, [])
  else if c = ':' then some (colon, [])
  else if c.isDigit then some (number [c], [])
  else if c.isAlpha || c = '_' then some (word [c], [])
  else
    match c with
    | ',' => some (between, [.comma])
    | '.' => some (between, [.dot])
    | '(' => some (between, [.openParen])
    | ')' => some (between, [.closeParen])
    | '=' => some (between, [.equals])
    | _ => none

/-- The pieces from a state of the walk on. -/
def lexemesFrom : Lexing → List Char → Option (List Lexeme)
  | state, [] => state.ended?
  | state, c :: rest =>
    match state.goOn? c with
    | some state => lexemesFrom state rest
    | none => do
      let ended ← state.ended?
      let (state, signs) ← start? c
      let more ← lexemesFrom state rest
      return ended ++ signs ++ more

end Lexing

/-! ### Understanding the words -/

/-- The token that a single piece is. -/
def Lexeme.token? : Lexeme → Option Token
  | word .SELECT => some (.keyword .SELECT)
  | word .FROM => some (.keyword .FROM)
  | word .WHERE => some (.keyword .WHERE)
  | word .AND => some (.keyword .AND)
  | word .AS => some (.keyword .AS)
  | word .ON => some (.keyword .ON)
  | word .JOIN => some (.keyword .JOIN)
  | word .LEFT => some (.keyword .LEFT)
  | word .ASC => some (.keyword .ASC)
  | word .IN => some (.keyword .IN)
  | word .NULL => some (.literal .null)
  | word .TRUE => some (.literal (.bool true))
  | word .FALSE => some (.literal (.bool false))
  | word _ => none
  | name s => some (.name s)
  | text s => some (.literal (.text s))
  | number l => some (.literal l)
  | comma => some .comma
  | dot => some .dot
  | openParen => some .openParen
  | closeParen => some .closeParen
  | equals => some .equals
  | colons => none

def tokensOf? : List Lexeme → Option (List Token)
  | [] => some []
  | .word .ORDER :: .word .BY :: rest => (tokensOf? rest).map (.keyword .ORDER_BY :: ·)
  | .colons :: .word .TEXT :: rest => (tokensOf? rest).map (.cast .text :: ·)
  | .colons :: .word .DOUBLE :: .word .PRECISION :: rest => (tokensOf? rest).map (.cast .float :: ·)
  | l :: rest => do
    let t ← l.token?
    let more ← tokensOf? rest
    return t :: more

/-- The tokens of a text, if it is one. -/
def read? (s : String) : Option (List Token) :=
  (Lexing.lexemesFrom .between s.toList).bind tokensOf?

/-- What is read for a token: nothing for blanks, the parts of a qualified name, and what the dialect
writes for a cast, a truth value or a float that is no number. -/
def Token.readAs (d : Dialect) : Token → List Token
  | space => []
  | newline => []
  | indent _ => []
  | qualified none s => [name s]
  | qualified (some n) s => [name n, dot, name s]
  | cast c =>
    match d with
    | .sqlite => []
    | .postgres => [cast c]
  | literal (.bool b) =>
    match d with
    | .sqlite => [literal (.int (if b then 1 else 0))]
    | .postgres => [literal (.bool b)]
  | literal (.float x) => if x.isFinite then [literal (.float x)] else [literal .null]
  | t => [t]

/-! ### Reading one piece -/

namespace Lexing

theorem lexemesFrom_of_goOn {state next : Lexing} {c : Char} (h : state.goOn? c = some next)
    (rest : List Char) : lexemesFrom state (c :: rest) = lexemesFrom next rest := by
  rw [lexemesFrom, h]

theorem lexemesFrom_of_ended {state : Lexing} {ended : List Lexeme} (h : state.ended? = some ended)
    {rest : List Char} (hrest : ∀ c ∈ rest.head?, state.goOn? c = none) :
    lexemesFrom state rest = (lexemesFrom .between rest).map (ended ++ ·) := by
  cases rest with
  | nil =>
    rw [lexemesFrom, lexemesFrom, h]
    simp [ended?]
  | cons c rest =>
    have hbetween : between.goOn? c = none := rfl
    rw [lexemesFrom, lexemesFrom, hrest c rfl, hbetween, h]
    cases hstart : start? c with
    | none => simp
    | some next =>
      obtain ⟨state, signs⟩ := next
      cases lexemesFrom state rest <;> simp [ended?]

theorem lexemesFrom_quoted (mark : Char) (s done rest : List Char) :
    lexemesFrom (quoted mark done)
      (s.flatMap (fun c => if c = mark then [mark, mark] else [c]) ++ mark :: rest)
      = lexemesFrom (behind mark (s.reverse ++ done)) rest := by
  induction s generalizing done with
  | nil => exact lexemesFrom_of_goOn (by simp [goOn?]) rest
  | cons c s ih =>
    rw [List.flatMap_cons, List.reverse_cons, List.append_assoc, List.append_assoc, List.singleton_append,
      ← ih (c :: done)]
    by_cases hc : c = mark
    · subst hc
      rw [if_pos rfl, List.cons_append, List.cons_append, List.nil_append]
      have hfirst : (quoted c done).goOn? c = some (behind c done) := by simp [goOn?]
      have hsecond : (behind c done).goOn? c = some (quoted c (c :: done)) := by simp [goOn?]
      rw [lexemesFrom_of_goOn hfirst, lexemesFrom_of_goOn hsecond]
    · rw [if_neg hc, List.singleton_append]
      exact lexemesFrom_of_goOn (by simp [goOn?, hc]) _

/-- What is written between marks is read as it was. -/
theorem lexemesFrom_enclosed {mark : Char} (hmark : mark = '"' ∨ mark = '\'') (s : String)
    {rest : List Char} (hrest : ∀ c ∈ rest.head?, c ≠ mark) :
    lexemesFrom between (Dialect.enclosed mark s.toList ++ rest) = (lexemesFrom between rest).map
      ([if mark = '"' then Lexeme.name s else Lexeme.text s] ++ ·) := by
  have hstart : lexemesFrom between (Dialect.enclosed mark s.toList ++ rest)
      = lexemesFrom (behind mark s.toList.reverse) rest := by
    have hquoted := lexemesFrom_quoted mark s.toList [] rest
    rw [List.append_nil] at hquoted
    rw [← hquoted, Dialect.enclosed, List.append_assoc, List.cons_append, List.singleton_append,
      lexemesFrom]
    rcases hmark with rfl | rfl <;> simp [goOn?, ended?, start?]
  rw [hstart]
  refine lexemesFrom_of_ended ?_ fun c hc => by simp [goOn?, hrest c hc]
  simp [ended?]

theorem lexemesFrom_sign {c : Char} {signs : List Lexeme} (h : start? c = some (between, signs))
    (rest : List Char) :
    lexemesFrom between (c :: rest) = (lexemesFrom between rest).map (signs ++ ·) := by
  have hbetween : between.goOn? c = none := rfl
  rw [lexemesFrom, hbetween, h]
  cases hmore : lexemesFrom between rest <;> simp [ended?, hmore]

/-- What can stand behind any token of a statement. -/
def Ends (rest : List Char) : Prop := ∀ c ∈ rest.head?, c ∈ [' ', '\n', ',', ')', ':']

theorem ends_cons {c : Char} (hc : c ∈ [' ', '\n', ',', ')', ':']) (rest : List Char) :
    Ends (c :: rest) := by
  intro d hd
  obtain rfl := Option.mem_some.mp hd
  exact hc

theorem Ends.isWordPart {rest : List Char} (h : Ends rest) {c : Char} (hc : c ∈ rest.head?) :
    isWordPart c = false := by
  have hall : [' ', '\n', ',', ')', ':'].all (fun c => !Lexing.isWordPart c) = true := by decide
  simpa using List.all_eq_true.mp hall c (h c hc)

theorem Ends.isNumberPart {rest : List Char} (h : Ends rest) {c : Char} (hc : c ∈ rest.head?)
    (done : List Char) : isNumberPart done c = false := by
  have hall : [' ', '\n', ',', ')', ':'].all (fun c => !(c.isAlphanum || c = '.' || c = '_') &&
      !(c = '-' || c = '+')) = true := by decide
  obtain ⟨hpart, hsign⟩ := Bool.and_eq_true_iff.mp (List.all_eq_true.mp hall c (h c hc))
  rw [Bool.not_eq_true'] at hpart hsign
  rw [Lexing.isNumberPart, hpart, hsign]
  rfl

theorem Ends.ne_mark {rest : List Char} (h : Ends rest) {mark : Char}
    (hmark : mark = '"' ∨ mark = '\'') : ∀ c ∈ rest.head?, c ≠ mark := by
  rintro c hc rfl
  have := h c hc
  rcases hmark with rfl | rfl <;> simp at this

theorem lexemesFrom_wordParts {letters : List Char} (h : ∀ c ∈ letters, isWordPart c = true)
    (done rest : List Char) : lexemesFrom (word done) (letters ++ rest)
      = lexemesFrom (word (letters.reverse ++ done)) rest := by
  induction letters generalizing done with
  | nil => rfl
  | cons c letters ih =>
    rw [List.forall_mem_cons] at h
    have hgo : (word done).goOn? c = some (word (c :: done)) := by simp [goOn?, h.1]
    rw [List.cons_append, lexemesFrom_of_goOn hgo, ih h.2]
    simp

/-- The letters are read as the word. -/
structure Spells (letters : List Char) (w : Word) : Prop where
  start : ∃ c more, letters = c :: more ∧ start? c = some (word [c], []) ∧ more.all isWordPart = true
  word : Word.ofLetters? letters = some w

theorem lexemesFrom_word {letters : List Char} {w : Word} (h : Spells letters w) {rest : List Char}
    (hrest : Ends rest) :
    lexemesFrom between (letters ++ rest) = (lexemesFrom between rest).map ([.word w] ++ ·) := by
  obtain ⟨⟨c, more, rfl, hstart, hparts⟩, hword⟩ := h
  have hbetween : between.goOn? c = none := rfl
  have hwalk : lexemesFrom between (c :: more ++ rest)
      = lexemesFrom (word (more.reverse ++ [c])) rest := by
    rw [← lexemesFrom_wordParts (List.all_eq_true.mp hparts), List.cons_append, lexemesFrom, hbetween,
      hstart]
    simp [ended?]
  rw [hwalk]
  refine lexemesFrom_of_ended ?_ fun c hc => by simp [goOn?, hrest.isWordPart hc]
  simp [ended?, hword]

/-! ### Numbers -/

/-- Each character goes on with the number in front of it. -/
def Continues : List Char → List Char → Prop
  | _, [] => True
  | done, c :: rest => isNumberPart done c = true ∧ Continues (c :: done) rest

theorem continues_append {a b done : List Char} :
    Continues done (a ++ b) ↔ Continues done a ∧ Continues (a.reverse ++ done) b := by
  induction a generalizing done with
  | nil => simp [Continues]
  | cons c a ih => simp [Continues, ih, and_assoc]

theorem isNumberPart_of_isDigit {c : Char} (h : c.isDigit = true) (done : List Char) :
    isNumberPart done c = true := by
  simp [isNumberPart, Char.isAlphanum, h]

theorem continues_digits {digits : List Char} (h : ∀ c ∈ digits, c.isDigit = true) (done : List Char) :
    Continues done digits := by
  induction digits generalizing done with
  | nil => trivial
  | cons c digits ih =>
    rw [List.forall_mem_cons] at h
    exact ⟨isNumberPart_of_isDigit h.1 done, ih h.2 _⟩

theorem continues_exponent {exponent : List Char} {k : Int} (hk : Binary64.exponentOf? exponent = some k)
    (done : List Char) : Continues done exponent := by
  cases exponent with
  | nil => trivial
  | cons e rest =>
    rw [Binary64.exponentOf?] at hk
    dsimp only at hk
    split at hk
    case isFalse => cases hk
    case isTrue h =>
      obtain ⟨he, -, hdigits⟩ := h
      obtain ⟨sign, hsign, hrest⟩ := Binary64.exists_sign rest
      have hletter : isNumberPart done e = true := by rcases he with rfl | rfl <;> rfl
      refine ⟨hletter, ?_⟩
      rw [hrest, continues_append]
      refine ⟨?_, continues_digits (List.all_eq_true.mp hdigits) _⟩
      rcases hsign with rfl | rfl | rfl
      · trivial
      · exact ⟨by rcases he with rfl | rfl <;> rfl, trivial⟩
      · exact ⟨by rcases he with rfl | rfl <;> rfl, trivial⟩

theorem continues_of_writes {text : List Char} {v : ℚ} (h : Binary64.Writes text v) (done : List Char) :
    Continues done text := by
  obtain ⟨whole, point, fraction, exponent, k, -, hwhole, hfraction, hpoint, -, hk, -, rfl, -⟩ := h
  rw [continues_append, continues_append]
  refine ⟨continues_digits hwhole _, ?_, continues_exponent hk _⟩
  rcases hpoint with rfl | ⟨rfl, rfl⟩
  · exact ⟨rfl, continues_digits hfraction _⟩
  · trivial

theorem start?_of_isDigit {c : Char} (h : c.isDigit = true) : start? c = some (number [c], []) := by
  have hne : ∀ {d : Char}, d.isDigit = false → c ≠ d := by
    rintro d hd rfl
    rw [h] at hd
    cases hd
  have hspace : c.isWhitespace = false := by
    simp [Char.isWhitespace, hne (d := ' ') rfl, hne (d := '\t') rfl, hne (d := '\r') rfl,
      hne (d := '\n') rfl]
  have hmark : (decide (c = '"') || decide (c = '\'')) = false := by
    simp [hne (d := '"') rfl, hne (d := '\'') rfl]
  rw [start?.eq_def, hspace, hmark, if_neg Bool.false_ne_true, if_neg Bool.false_ne_true,
    if_neg (hne rfl), if_neg (hne rfl), if_pos h]

theorem lexemesFrom_numberParts {letters done : List Char} (h : Continues done letters)
    (rest : List Char) : lexemesFrom (number done) (letters ++ rest)
      = lexemesFrom (number (letters.reverse ++ done)) rest := by
  induction letters generalizing done with
  | nil => rfl
  | cons c letters ih =>
    obtain ⟨hc, h⟩ := h
    have hgo : (number done).goOn? c = some (number (c :: done)) := by simp [goOn?, hc]
    rw [List.cons_append, lexemesFrom_of_goOn hgo, ih h]
    simp

/-- A number that begins with a digit, possibly behind a dash. -/
theorem lexemesFrom_number {negative : Bool} {text : List Char} {l : Literal}
    (hfirst : ∃ d ∈ text.head?, d.isDigit = true) (hparts : ∀ done, Continues done text)
    (hnumber : number? ((if negative then ['-'] else []) ++ text) = some l) {rest : List Char}
    (hrest : Ends rest) :
    lexemesFrom between ((if negative then ['-'] else []) ++ text ++ rest)
      = (lexemesFrom between rest).map ([.number l] ++ ·) := by
  obtain ⟨d, hd, hdigit⟩ := hfirst
  obtain ⟨digits, rfl⟩ : ∃ digits, text = d :: digits := by
    cases text with
    | nil => cases hd
    | cons e digits => exact ⟨digits, by rw [Option.mem_some.mp hd]⟩
  have hwalk : lexemesFrom between ((if negative then ['-'] else []) ++ d :: digits ++ rest)
      = lexemesFrom (number (digits.reverse ++ d :: if negative then ['-'] else [])) rest := by
    have hbetween : ∀ c, between.goOn? c = none := fun _ => rfl
    rw [← lexemesFrom_numberParts (hparts _).2]
    cases negative with
    | false =>
      rw [if_neg Bool.false_ne_true, List.nil_append, List.cons_append, lexemesFrom, hbetween,
        start?_of_isDigit hdigit]
      simp [ended?]
    | true =>
      have hdash : start? '-' = some (dash, []) := rfl
      have hne : d ≠ '-' := by
        rintro rfl
        cases hdigit
      rw [if_pos rfl, List.append_assoc, List.singleton_append, List.cons_append, lexemesFrom, hbetween,
        hdash]
      simp [ended?, lexemesFrom, goOn?, hne, hdigit]
  rw [hwalk]
  refine lexemesFrom_of_ended ?_ fun c hc => by simp [goOn?, hrest.isNumberPart hc]
  have hreverse : (digits.reverse ++ d :: if negative then ['-'] else []).reverse
      = (if negative then ['-'] else []) ++ d :: digits := by
    cases negative <;> simp
  rw [ended?, hreverse, hnumber]
  rfl

end Lexing

theorem splitSign_text {negative : Bool} {text : List Char}
    (hfirst : ∃ d ∈ text.head?, d.isDigit = true) :
    Binary64.splitSign ((if negative then ['-'] else []) ++ text) = (negative, text) := by
  obtain ⟨d, hd, hdigit⟩ := hfirst
  cases text with
  | nil => cases hd
  | cons e digits =>
    obtain rfl := Option.mem_some.mp hd
    cases negative
    · exact Binary64.splitSign_of_isDigit hdigit
    · rfl

theorem exists_head_digitsOf (n : Nat) : ∃ d ∈ (Binary64.digitsOf n).head?, d.isDigit = true := by
  obtain ⟨d, digits, hdigits⟩ := List.exists_cons_of_ne_nil (Nat.toDigits_ne_nil (n := n) (b := 10))
  refine ⟨d, by rw [Binary64.digitsOf, hdigits]; rfl, ?_⟩
  exact Binary64.isDigit_of_mem_digitsOf (n := n) (by rw [Binary64.digitsOf, hdigits]; simp)

theorem intDigits_eq (n : Int) :
    intDigits n = (if decide (n < 0) then ['-'] else []) ++ Binary64.digitsOf n.natAbs := by
  rw [intDigits]
  by_cases hneg : n < 0 <;> simp [hneg]

theorem number?_intDigits (n : Int) : number? (intDigits n) = some (.int n) := by
  have hall : (Binary64.digitsOf n.natAbs).all Char.isDigit = true :=
    List.all_eq_true.mpr fun c hc => Binary64.isDigit_of_mem_digitsOf hc
  rw [number?, intDigits_eq, splitSign_text (exists_head_digitsOf _)]
  dsimp only
  rw [if_pos hall, Binary64.digitsValue_digitsOf]
  congr 2
  by_cases hneg : n < 0
  · rw [decide_eq_true hneg, if_pos rfl]
    omega
  · rw [decide_eq_false hneg, if_neg Bool.false_ne_true]
    omega

theorem number?_render {x : Binary64} (hx : x.isFinite = true) :
    number? (x.render .sql).toList = some (.float x) ∧ ∃ (negative : Bool) (text : List Char),
      (x.render .sql).toList = (if negative then ['-'] else []) ++ text ∧
        (∃ d ∈ text.head?, d.isDigit = true) ∧ ∀ done, Lexing.Continues done text := by
  obtain ⟨text, v, heq, hwrites, -⟩ := Binary64.exists_writes_render hx .sql
  have hfirst := hwrites.exists_head
  refine ⟨?_, x.negative, text, by rw [heq, String.toList_ofList], hfirst,
    Lexing.continues_of_writes hwrites⟩
  have hread := Binary64.ofText?_render hx .sql
  rw [heq] at hread
  rw [heq, number?, String.toList_ofList, splitSign_text hfirst]
  dsimp only
  rw [if_neg hwrites.not_all_digits, hread]
  rfl

/-! ### Reading one token -/

/-- The tokens of what is left of a text between two pieces. -/
def readFrom (cs : List Char) : Option (List Token) :=
  (Lexing.lexemesFrom .between cs).bind tokensOf?

theorem readFrom_append {cs rest : List Char} {lexemes : List Lexeme} {tokens : List Token}
    (hcs : Lexing.lexemesFrom .between (cs ++ rest)
      = (Lexing.lexemesFrom .between rest).map (lexemes ++ ·))
    (htokens : ∀ l, tokensOf? (lexemes ++ l) = (tokensOf? l).map (tokens ++ ·)) :
    readFrom (cs ++ rest) = (readFrom rest).map (tokens ++ ·) := by
  rw [readFrom, readFrom, hcs]
  cases Lexing.lexemesFrom .between rest with
  | none => rfl
  | some l => exact htokens l

open Lexing (Ends)

/-- The tokens are read back, whatever comes behind them. -/
def Reads (d : Dialect) (tokens : List Token) : Prop :=
  ∀ rest, Ends rest → readFrom (tokens.flatMap (Token.render d) ++ rest)
    = (readFrom rest).map (tokens.flatMap (Token.readAs d) ++ ·)

/-- The tokens are read back and can stand behind any others. -/
structure Follows (d : Dialect) (tokens : List Token) : Prop where
  reads : Reads d tokens
  ends : ∀ rest, Ends rest → Ends (tokens.flatMap (Token.render d) ++ rest)

section Tokens

variable {d : Dialect} {tokens more : List Token}

theorem follows_nil : Follows d [] := by
  refine ⟨fun rest _ => ?_, fun rest hrest => hrest⟩
  cases hread : readFrom rest <;> simp [hread]

theorem Reads.append (h : Reads d tokens) (hmore : Follows d more) : Reads d (tokens ++ more) := by
  intro rest hrest
  rw [List.flatMap_append, List.flatMap_append, List.append_assoc, h _ (hmore.ends rest hrest),
    hmore.reads rest hrest, Option.map_map]
  congr 1
  funext l
  simp

theorem Follows.append (h : Follows d tokens) (hmore : Follows d more) : Follows d (tokens ++ more) := by
  refine ⟨h.reads.append hmore, fun rest hrest => ?_⟩
  rw [List.flatMap_append, List.append_assoc]
  exact h.ends _ (hmore.ends rest hrest)

theorem Reads.cons {t : Token} (h : Reads d tokens)
    (ht : ∀ rest, Ends rest → readFrom (t.render d ++ (tokens.flatMap (Token.render d) ++ rest))
      = (readFrom (tokens.flatMap (Token.render d) ++ rest)).map (t.readAs d ++ ·)) :
    Reads d (t :: tokens) := by
  intro rest hrest
  rw [List.flatMap_cons, List.flatMap_cons, List.append_assoc, ht rest hrest, h rest hrest,
    Option.map_map]
  congr 1
  funext l
  simp

theorem readFrom_blank {c : Char} (hc : Lexing.start? c = some (.between, [])) (rest : List Char) :
    readFrom (c :: rest) = (readFrom rest).map ([] ++ ·) := by
  have hsign : Lexing.lexemesFrom .between ([c] ++ rest) = _ := Lexing.lexemesFrom_sign hc rest
  exact readFrom_append hsign fun l => by simp

theorem readFrom_sign {c : Char} {l : Lexeme} {t : Token}
    (hc : Lexing.start? c = some (.between, [l])) (ht : ∀ rest, tokensOf? (l :: rest)
      = (tokensOf? rest).map ([t] ++ ·)) (rest : List Char) :
    readFrom (c :: rest) = (readFrom rest).map ([t] ++ ·) := by
  have hsign : Lexing.lexemesFrom .between ([c] ++ rest) = _ := Lexing.lexemesFrom_sign hc rest
  exact readFrom_append hsign ht

/-- A piece that is a token on its own is one wherever it stands. -/
theorem tokensOf?_cons {l : Lexeme} {t : Token} (h : l.token? = some t) (rest : List Lexeme) :
    tokensOf? (l :: rest) = (tokensOf? rest).map ([t] ++ ·) := by
  rw [tokensOf?.eq_def]
  split
  case h_1 heq => cases heq
  case h_2 heq => cases heq; cases h
  case h_3 heq => cases heq; cases h
  case h_4 heq => cases heq; cases h
  case h_5 heq =>
    obtain ⟨rfl, rfl⟩ := List.cons.inj heq
    rw [h]
    cases tokensOf? rest <;> rfl

/-- A token that is one sign, or a blank, is read whatever comes behind it. -/
theorem Reads.sign {t : Token} (h : Reads d tokens)
    (ht : t ∈ [.space, .newline, .indent 1, .comma, .dot, .openParen, .closeParen, .equals]) :
    Reads d (t :: tokens) := by
  refine h.cons fun rest _ => ?_
  generalize tokens.flatMap (Token.render d) ++ rest = rest
  simp only [List.mem_cons, List.not_mem_nil, or_false] at ht
  rcases ht with rfl | rfl | rfl | rfl | rfl | rfl | rfl | rfl
  · exact readFrom_blank rfl rest
  · exact readFrom_blank rfl rest
  · change readFrom (' ' :: ' ' :: rest) = _
    rw [readFrom_blank rfl, readFrom_blank rfl, Option.map_map]
    rfl
  · exact readFrom_sign rfl (tokensOf?_cons rfl) rest
  · exact readFrom_sign rfl (tokensOf?_cons rfl) rest
  · exact readFrom_sign rfl (tokensOf?_cons rfl) rest
  · exact readFrom_sign rfl (tokensOf?_cons rfl) rest
  · exact readFrom_sign rfl (tokensOf?_cons rfl) rest

/-- A sign or a blank that can stand behind any token. -/
theorem Reads.behind {t : Token} (h : Reads d tokens) (ht : t ∈ [.space, .newline, .comma, .closeParen]) :
    Follows d (t :: tokens) := by
  simp only [List.mem_cons, List.not_mem_nil, or_false] at ht
  refine ⟨h.sign ?_, fun rest _ => ?_⟩
  · rcases ht with rfl | rfl | rfl | rfl <;> simp
  · rw [List.flatMap_cons, List.append_assoc]
    rcases ht with rfl | rfl | rfl | rfl <;> exact Lexing.ends_cons (by decide) _

theorem Reads.space (h : Reads d tokens) : Follows d (.space :: tokens) := h.behind (by simp)

theorem Reads.newline (h : Reads d tokens) : Follows d (.newline :: tokens) := h.behind (by simp)

theorem Reads.comma (h : Reads d tokens) : Follows d (.comma :: tokens) := h.behind (by simp)

theorem readFrom_word {letters : List Char} {w : Word} {t : Token} (h : Lexing.Spells letters w)
    (ht : (Lexeme.word w).token? = some t) {rest : List Char} (hrest : Ends rest) :
    readFrom (letters ++ rest) = (readFrom rest).map ([t] ++ ·) :=
  readFrom_append (Lexing.lexemesFrom_word h hrest) (tokensOf?_cons ht)

theorem readFrom_name (s : String) {rest : List Char} (hrest : ∀ c ∈ rest.head?, c ≠ '"') :
    readFrom (d.quoteName s ++ rest) = (readFrom rest).map ([.name s] ++ ·) :=
  readFrom_append (Lexing.lexemesFrom_enclosed (.inl rfl) s hrest) (tokensOf?_cons rfl)

/-- Two words between which stands a blank. -/
theorem lexemesFrom_words {letters letters' : List Char} {w w' : Word} (h : Lexing.Spells letters w)
    (h' : Lexing.Spells letters' w') {rest : List Char} (hrest : Ends rest) :
    Lexing.lexemesFrom .between (letters ++ ' ' :: letters' ++ rest)
      = (Lexing.lexemesFrom .between rest).map ([.word w, .word w'] ++ ·) := by
  have hblank : Ends (' ' :: (letters' ++ rest)) := Lexing.ends_cons (by decide) _
  rw [List.append_assoc, List.cons_append, Lexing.lexemesFrom_word h hblank,
    Lexing.lexemesFrom_sign rfl, Lexing.lexemesFrom_word h' hrest, Option.map_map, Option.map_map]
  rfl

theorem readFrom_keyword (k : Keyword) {rest : List Char} (hrest : Ends rest) :
    readFrom (k.text ++ rest) = (readFrom rest).map ([.keyword k] ++ ·) := by
  cases k
  case ORDER_BY =>
    have horder : Lexing.Spells "ORDER".toList .ORDER := ⟨⟨_, _, rfl, rfl, rfl⟩, rfl⟩
    have hby : Lexing.Spells "BY".toList .BY := ⟨⟨_, _, rfl, rfl, rfl⟩, rfl⟩
    exact readFrom_append (lexemesFrom_words horder hby hrest) fun l => rfl
  all_goals exact readFrom_word ⟨⟨_, _, rfl, rfl, rfl⟩, rfl⟩ rfl hrest

theorem lexemesFrom_colons (cs : List Char) : Lexing.lexemesFrom .between (':' :: ':' :: cs)
    = (Lexing.lexemesFrom .between cs).map ([.colons] ++ ·) := by
  have hbetween : Lexing.between.goOn? ':' = none := rfl
  have hstart : Lexing.start? ':' = some (.colon, []) := rfl
  have hcolon : Lexing.colon.goOn? ':' = some .colons := rfl
  have hended : Lexing.colons.ended? = some [.colons] := rfl
  rw [← Lexing.lexemesFrom_of_ended hended fun _ _ => rfl, Lexing.lexemesFrom, hbetween, hstart]
  simp [Lexing.ended?, Lexing.lexemesFrom_of_goOn hcolon]

theorem readFrom_cast (c : ScalarCast) {rest : List Char} (hrest : Ends rest) :
    readFrom (d.castSuffix c ++ rest) = (readFrom rest).map ((Token.cast c).readAs d ++ ·) := by
  cases d with
  | sqlite => exact ((follows_nil (d := .sqlite)).reads rest hrest)
  | postgres =>
    cases c with
    | text =>
      have htext : Lexing.Spells "text".toList .TEXT := ⟨⟨_, _, rfl, rfl, rfl⟩, rfl⟩
      have hlexemes : Lexing.lexemesFrom .between ("::text".toList ++ rest)
          = (Lexing.lexemesFrom .between rest).map ([.colons, .word .TEXT] ++ ·) := by
        change Lexing.lexemesFrom .between (':' :: ':' :: ("text".toList ++ rest)) = _
        rw [lexemesFrom_colons, Lexing.lexemesFrom_word htext hrest, Option.map_map]
        rfl
      exact readFrom_append hlexemes fun l => rfl
    | float =>
      have hdouble : Lexing.Spells "double".toList .DOUBLE := ⟨⟨_, _, rfl, rfl, rfl⟩, rfl⟩
      have hprecision : Lexing.Spells "precision".toList .PRECISION := ⟨⟨_, _, rfl, rfl, rfl⟩, rfl⟩
      have hlexemes : Lexing.lexemesFrom .between ("::double precision".toList ++ rest)
          = (Lexing.lexemesFrom .between rest).map
            ([.colons, .word .DOUBLE, .word .PRECISION] ++ ·) := by
        change Lexing.lexemesFrom .between
          (':' :: ':' :: ("double".toList ++ ' ' :: "precision".toList ++ rest)) = _
        rw [lexemesFrom_colons, lexemesFrom_words hdouble hprecision hrest, Option.map_map]
        rfl
      exact readFrom_append hlexemes fun l => rfl

theorem readFrom_null {rest : List Char} (hrest : Ends rest) :
    readFrom (d.nullText ++ rest) = (readFrom rest).map ([.literal .null] ++ ·) :=
  readFrom_word ⟨⟨_, _, rfl, rfl, rfl⟩, rfl⟩ rfl hrest

theorem readFrom_int (n : Int) {rest : List Char} (hrest : Ends rest) :
    readFrom (intDigits n ++ rest) = (readFrom rest).map ([.literal (.int n)] ++ ·) := by
  have hnumber := number?_intDigits n
  rw [intDigits_eq] at hnumber ⊢
  have hparts := Lexing.continues_digits fun c (hc : c ∈ Binary64.digitsOf n.natAbs) =>
    Binary64.isDigit_of_mem_digitsOf hc
  exact readFrom_append (Lexing.lexemesFrom_number (exists_head_digitsOf _) hparts hnumber hrest)
    (tokensOf?_cons rfl)

theorem readFrom_float {x : Binary64} (hx : x.isFinite = true) {rest : List Char} (hrest : Ends rest) :
    readFrom ((x.render .sql).toList ++ rest)
      = (readFrom rest).map ([.literal (.float x)] ++ ·) := by
  obtain ⟨hnumber, negative, text, htext, hfirst, hparts⟩ := number?_render hx
  rw [htext] at hnumber ⊢
  exact readFrom_append (Lexing.lexemesFrom_number hfirst hparts hnumber hrest) (tokensOf?_cons rfl)

theorem readFrom_bool (b : Bool) {rest : List Char} (hrest : Ends rest) :
    readFrom (d.boolText b ++ rest)
      = (readFrom rest).map ((Token.literal (.bool b)).readAs d ++ ·) := by
  cases d with
  | sqlite =>
    cases b
    · exact readFrom_int 0 hrest
    · exact readFrom_int 1 hrest
  | postgres => cases b <;> exact readFrom_word ⟨⟨_, _, rfl, rfl, rfl⟩, rfl⟩ rfl hrest

theorem readFrom_literal (l : Literal) {rest : List Char} (hrest : Ends rest) :
    readFrom (l.render d ++ rest) = (readFrom rest).map ((Token.literal l).readAs d ++ ·) := by
  cases l with
  | int n => exact readFrom_int n hrest
  | float x =>
    rw [Literal.render, Token.readAs]
    split
    case isTrue hx => exact readFrom_float hx hrest
    case isFalse => exact readFrom_null hrest
  | text s =>
    exact readFrom_append (Lexing.lexemesFrom_enclosed (.inr rfl) s (hrest.ne_mark (.inr rfl)))
      (tokensOf?_cons rfl)
  | bool b => exact readFrom_bool b hrest
  | null => exact readFrom_null (d := d) hrest

/-! ### Reading the parts of a statement -/

/-- A token that must not run into what comes behind it, in front of what can stand behind any. -/
theorem Follows.cons {t : Token} (h : Follows d tokens)
    (ht : ∀ {rest}, Ends rest → readFrom (t.render d ++ rest) = (readFrom rest).map (t.readAs d ++ ·)) :
    Reads d (t :: tokens) :=
  h.reads.cons fun rest hrest => ht (h.ends rest hrest)

theorem Follows.keyword (h : Follows d tokens) (k : Keyword) : Reads d (.keyword k :: tokens) :=
  h.cons fun hrest => readFrom_keyword k hrest

theorem Follows.literal (h : Follows d tokens) (l : Literal) : Reads d (.literal l :: tokens) :=
  h.cons fun hrest => readFrom_literal l hrest

theorem Follows.name (h : Follows d tokens) (s : String) : Reads d (.name s :: tokens) :=
  h.cons fun hrest => readFrom_name (d := d) s (hrest.ne_mark (.inl rfl))

/-- A name in front of a dot. -/
theorem Reads.name_dot (h : Reads d tokens) (s : String) : Reads d (.name s :: .dot :: tokens) :=
  (h.sign (by simp)).cons fun rest _ => readFrom_name (d := d) s (by simp [Token.render])

theorem Follows.qualified (h : Follows d tokens) (n : Option String) (s : String) :
    Reads d (.qualified n s :: tokens) := by
  refine h.cons fun {rest} hrest => ?_
  have hname := readFrom_name (d := d) s (hrest.ne_mark (.inl rfl))
  cases n with
  | none => exact hname
  | some n =>
    have hdot : ∀ c ∈ ('.' :: (d.quoteName s ++ rest)).head?, c ≠ '"' := by simp
    rw [Token.render, List.append_assoc, List.cons_append, readFrom_name n hdot,
      readFrom_sign rfl (tokensOf?_cons rfl), hname, Option.map_map, Option.map_map]
    rfl

theorem follows_cast (c : ScalarCast) : Follows d [.cast c] := by
  refine ⟨follows_nil.cons fun hrest => readFrom_cast c hrest, fun rest hrest => ?_⟩
  cases d with
  | sqlite => exact hrest
  | postgres =>
    cases c
    · exact Lexing.ends_cons (by decide) (':' :: "double precision".toList ++ rest)
    · exact Lexing.ends_cons (by decide) (':' :: "text".toList ++ rest)

theorem follows_aliasTokens (a : Option String) : Follows d (aliasTokens a) := by
  cases a with
  | none => exact follows_nil
  | some a => exact ((follows_nil.name a).space.keyword .AS).space

mutual

theorem reads_expr : (e : Expr) → Reads d e.tokens
  | .column none c => by
    rw [Expr.tokens]
    exact follows_nil.name c
  | .column (some t) c => by
    rw [Expr.tokens]
    exact (follows_nil.name c).name_dot t
  | .literal l => by
    rw [Expr.tokens]
    exact follows_nil.literal l
  | .eq left right => by
    rw [Expr.tokens, List.append_assoc]
    have hright : Reads d (.equals :: .space :: right.tokens) := (reads_expr right).space.reads.sign (by simp)
    exact (reads_expr left).append hright.space
  | .and left right => by
    rw [Expr.tokens, List.append_assoc]
    exact (reads_expr left).append ((reads_expr right).space.keyword .AND).space
  | .isIn e values => by
    rw [Expr.tokens, List.append_assoc, List.append_assoc]
    have hclose : Follows d [.closeParen] := follows_nil.reads.behind (by simp)
    have hlist : Reads d (.openParen :: (Expr.listTokens values ++ [.closeParen])) :=
      ((reads_list values).append hclose).sign (by simp)
    exact (reads_expr e).append (hlist.space.keyword .IN).space

theorem reads_list : (l : List Expr) → Reads d (Expr.listTokens l)
  | [] => by
    rw [Expr.listTokens]
    exact follows_nil.reads
  | e :: rest => by
    rw [Expr.listTokens]
    exact (reads_expr e).append (follows_more rest)

theorem follows_more : (l : List Expr) → Follows d (Expr.moreTokens l)
  | [] => by
    rw [Expr.moreTokens]
    exact follows_nil
  | e :: rest => by
    rw [Expr.moreTokens]
    exact ((reads_expr e).append (follows_more rest)).space.reads.comma

end

theorem reads_selectItem (s : SelectItem) : Reads d s.tokens := by
  rw [SelectItem.tokens, List.append_assoc]
  have halias := follows_aliasTokens (d := d) s.aliasName
  refine (reads_expr s.expr).append ?_
  cases s.cast with
  | none => exact halias
  | some c => exact (follows_cast c).append halias

/-- Tokens on a line of their own. -/
theorem Reads.line (h : Reads d tokens) : Follows d ([.newline, .indent 1] ++ tokens) := by
  have hindent : Reads d (.indent 1 :: tokens) := h.sign (by simp)
  exact hindent.newline

theorem follows_selectTokens : (l : List SelectItem) → Follows d (selectTokens l)
  | [] => follows_nil
  | [s] => (reads_selectItem s).line
  | s :: s' :: rest => by
    rw [selectTokens, List.append_assoc, List.append_assoc]
    · have hrest := (follows_selectTokens (s' :: rest)).reads.comma
      exact ((reads_selectItem s).append hrest).line
    · simp

theorem reads_tableRef (t : TableRef) : Reads d t.tokens :=
  (follows_aliasTokens t.aliasName).qualified t.namespaceName t.table

theorem reads_join (j : Join) : Reads d j.tokens := by
  have hon : Follows d ([.space, .keyword .ON, .space] ++ j.on.tokens) :=
    ((reads_expr j.on).space.keyword .ON).space
  have htable := (reads_tableRef j.table).append hon
  rw [Join.tokens, List.append_assoc, List.append_assoc]
  exact (htable.space.keyword .JOIN).space.keyword .LEFT

theorem reads_orderTokens : (l : List Expr) → Reads d (orderTokens l)
  | [] => follows_nil.reads
  | [e] => (reads_expr e).append (follows_nil.keyword .ASC).space
  | e :: e' :: rest => by
    rw [orderTokens, List.append_assoc]
    · have hrest := (reads_orderTokens (e' :: rest)).space.reads.comma
      exact (reads_expr e).append (hrest.keyword .ASC).space
    · simp

/-- A clause, on a line of its own. -/
theorem Reads.clause (h : Reads d tokens) (k : Keyword) :
    Follows d ([.newline, .keyword k, .space] ++ tokens) :=
  (h.space.keyword k).newline

theorem follows_joins : (l : List Join) → Follows d (l.flatMap fun j => .newline :: j.tokens)
  | [] => follows_nil
  | j :: rest => ((reads_join j).append (follows_joins rest)).newline

theorem reads_query (q : Query) : Reads d q.tokens := by
  rw [Query.tokens]
  refine (((Reads.append ?_ ?source).append (follows_joins q.joins)).append ?condition).append ?order
  · exact (follows_selectTokens q.select).keyword .SELECT
  case source =>
    cases q.source with
    | none => exact follows_nil
    | some t => exact (reads_tableRef t).clause .FROM
  case condition =>
    cases q.condition with
    | none => exact follows_nil
    | some e => exact (reads_expr e).clause .WHERE
  case order =>
    split
    · exact follows_nil
    · exact (reads_orderTokens q.orderBy).clause .ORDER_BY

end Tokens

theorem read?_of_reads {d : Dialect} {tokens : List Token} (h : Reads d tokens) :
    read? (renderTokens d tokens) = some (tokens.flatMap (Token.readAs d)) := by
  have hread := h [] (by simp [Ends])
  rw [List.append_nil] at hread
  rw [read?, renderTokens, String.toList_ofList]
  change readFrom _ = _
  rw [hread]
  simp [readFrom, Lexing.lexemesFrom, Lexing.ended?, tokensOf?]

/-- Every statement is read back from its text, for any keys that it is restricted to: names and texts
with what they hold, and of the rest nothing but the tokens that were written. -/
theorem read_render (d : Dialect) :
    (∀ q : Query, read? (q.render d) = some (q.tokens.flatMap (Token.readAs d))) ∧
    ∀ (f : Fetch) (keys : List Literal),
      read? (f.render d keys) = some ((f.restricted keys).tokens.flatMap (Token.readAs d)) :=
  ⟨fun q => read?_of_reads (reads_query q), fun f keys => read?_of_reads (reads_query (f.restricted keys))⟩

/-- What looks like a comment or an end is part of a name; a comment outside of one is not read. -/
example : read? "Select \"a--\"\"b;\" -- ;\n" = some [.keyword .SELECT, .name "a--\"b;"] := by rfl

end NestedRows.Sql
