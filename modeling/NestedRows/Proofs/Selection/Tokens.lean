import Mathlib.Data.List.Chain
import NestedRows.Selection.Token
import NestedRows.Proofs.Text.Identifier
/-!
# Texts that spell tokens

A text spells tokens when it is made of pieces: blanks, comments and the tokens themselves, in any
mix. A comment ends where its line ends, and two names do not touch. The walk over the characters
finds the tokens of every such text and of no other.
-/

namespace NestedRows.Selection

namespace Token

/-- The characters of a token. -/
def text : Token → List Char
  | .openBlock => ['\x7b']
  | .closeBlock => ['\x7d']
  | .comma => [',']
  | .name s => s

/-- Whether the token is one that a text can hold: the name of a field is an identifier. -/
def IsProper : Token → Prop
  | .name [] => False
  | .name (c :: rest) => Text.isIdentifierStart c ∧ ∀ d ∈ rest, Text.isIdentifierPart d
  | _ => True

end Token

/-- A piece of a text: a token, or what only stands between tokens. -/
inductive Piece where
  | blank (c : Char)
  /-- The number sign and the note behind it. -/
  | comment (note : List Char)
  | token (t : Token)

namespace Piece

def text : Piece → List Char
  | .blank c => [c]
  | .comment note => '#' :: note
  | .token t => t.text

def token? : Piece → Option Token
  | .token t => some t
  | _ => none

def IsProper : Piece → Prop
  | .blank c => Text.isBlank c
  | .comment note => '\n' ∉ note
  | .token t => t.IsProper

/-- Whether `q` may stand right behind `p`: a comment goes on up to the end of its line, and a name
would go on into a name. -/
def MayPrecede (p q : Piece) : Prop :=
  match p, q with
  | .comment _, q => q = .blank '\n'
  | .token (.name _), .token (.name _) => False
  | _, _ => True

end Piece

/-- `text` consists of `pieces`, and `tokens` are the tokens among them. -/
structure Spells (pieces : List Piece) (tokens : List Token) (text : List Char) : Prop where
  isProper : ∀ p ∈ pieces, p.IsProper
  apart : pieces.IsChain Piece.MayPrecede
  tokens_eq : pieces.filterMap Piece.token? = tokens
  text_eq : pieces.flatMap Piece.text = text

/-! ## One character -/

theorem startToken?_blank {c : Char} (hc : Text.isBlank c = true) :
    startToken? c = some (.between, []) := by
  simp [startToken?, hc]

theorem isBlank_lineFeed : Text.isBlank '\n' = true := rfl

theorem startToken?_sign {t : Token} (ht : ∀ s, t ≠ .name s) :
    ∃ c, t.text = [c] ∧ Text.isIdentifierPart c = false ∧
      startToken? c = some (.between, [t]) := by
  cases t with
  | openBlock => exact ⟨'\x7b', rfl, by decide +kernel, rfl⟩
  | closeBlock => exact ⟨'\x7d', rfl, by decide +kernel, rfl⟩
  | comma => exact ⟨',', rfl, by decide +kernel, rfl⟩
  | name s => exact absurd rfl (ht s)

theorem isIdentifierPart_numberSign : Text.isIdentifierPart '#' = false := by decide +kernel

theorem startToken?_numberSign : startToken? '#' = some (.comment, []) := rfl

theorem startToken?_start {c : Char} (hc : Text.isIdentifierStart c = true) :
    startToken? c = some (.name [c], []) := by
  have hpart := Text.isIdentifierPart_of_isIdentifierStart hc
  have hblank := Text.isBlank_eq_false_of_isIdentifierPart hpart
  have hother : ∀ d, Text.isIdentifierPart d = false → c ≠ d := by
    rintro d hd rfl
    simp [hpart] at hd
  have hnumber := hother '#' isIdentifierPart_numberSign
  have hopen := hother '\x7b' (by decide +kernel)
  have hclose := hother '\x7d' (by decide +kernel)
  have hcomma := hother ',' (by decide +kernel)
  simp [startToken?, hblank, hnumber, hopen, hclose, hcomma, hc]

/-- What a character is that may stand between tokens. -/
theorem startToken?_cases {c : Char} {state : Lexing} {tokens : List Token}
    (h : startToken? c = some (state, tokens)) :
    (Text.isBlank c = true ∧ state = .between ∧ tokens = []) ∨
    (c = '#' ∧ state = .comment ∧ tokens = []) ∨
    (∃ t : Token, (∀ s, t ≠ .name s) ∧ t.text = [c] ∧ state = .between ∧ tokens = [t]) ∨
    (Text.isIdentifierStart c = true ∧ state = .name [c] ∧ tokens = []) := by
  unfold startToken? at h
  split at h
  · next hblank =>
    cases h
    exact .inl ⟨hblank, rfl, rfl⟩
  split at h
  · next hnumber =>
    cases h
    exact .inr (.inl ⟨hnumber, rfl, rfl⟩)
  split at h
  · next hopen =>
    cases h
    exact .inr (.inr (.inl ⟨.openBlock, nofun, by rw [hopen]; rfl, rfl, rfl⟩))
  split at h
  · next hclose =>
    cases h
    exact .inr (.inr (.inl ⟨.closeBlock, nofun, by rw [hclose]; rfl, rfl, rfl⟩))
  split at h
  · next hcomma =>
    cases h
    exact .inr (.inr (.inl ⟨.comma, nofun, by rw [hcomma]; rfl, rfl, rfl⟩))
  split at h
  · next hstart =>
    cases h
    exact .inr (.inr (.inr ⟨hstart, rfl, rfl⟩))
  · cases h

theorem tokensFrom_cons_eq_some_iff {state : Lexing} {c : Char} {rest : List Char}
    {tokens : List Token} :
    tokensFrom state (c :: rest) = some tokens ↔
      ∃ next now later, lexStep state c = some (next, now) ∧
        tokensFrom next rest = some later ∧ now ++ later = tokens := by
  cases state <;> simp [tokensFrom, Option.bind_eq_some_iff]


/-- Behind a name that no character goes on with, the walk is as it is between tokens. -/
theorem tokensFrom_name_of_head? {text : List Char} (done : List Char)
    (hhead : ∀ c ∈ text.head?, Text.isIdentifierPart c = false) :
    tokensFrom (.name done) text =
      (tokensFrom .between text).map (.name done.reverse :: ·) := by
  cases text with
  | nil => rfl
  | cons c rest =>
    have hc : Text.isIdentifierPart c = false := hhead c rfl
    simp only [tokensFrom, lexStep, hc]
    cases startToken? c with
    | none => rfl
    | some out => cases htokens : tokensFrom out.1 rest <;> simp [htokens]

/-! ## Texts that spell tokens are read -/

theorem tokensFrom_comment_append {note rest : List Char} (hnote : '\n' ∉ note) :
    tokensFrom .comment (note ++ rest) = tokensFrom .comment rest := by
  induction note with
  | nil => rfl
  | cons c note ih =>
    obtain ⟨hc, hnote⟩ : '\n' ≠ c ∧ '\n' ∉ note := by simpa using hnote
    simp [tokensFrom, lexStep, hc.symm, ih hnote]

theorem tokensFrom_name_append {part rest : List Char} (done : List Char)
    (hpart : ∀ c ∈ part, Text.isIdentifierPart c) :
    tokensFrom (.name done) (part ++ rest) =
      tokensFrom (.name (part.reverse ++ done)) rest := by
  induction part generalizing done with
  | nil => rfl
  | cons c part ih =>
    obtain ⟨hc, hpart⟩ := List.forall_mem_cons.mp hpart
    simp [tokensFrom, lexStep, hc, ih (c :: done) hpart]

/-- A piece begins with a character that no name goes on with, unless it is a name itself. -/
theorem Piece.exists_text_eq_cons {p : Piece} (hp : p.IsProper)
    (hname : ∀ s, p ≠ .token (.name s)) :
    ∃ c rest, p.text = c :: rest ∧ Text.isIdentifierPart c = false := by
  cases p with
  | blank c =>
    refine ⟨c, [], rfl, ?_⟩
    by_contra hc
    have hblank := Text.isBlank_eq_false_of_isIdentifierPart (by simpa using hc)
    exact absurd hp (by simp [Piece.IsProper, hblank])
  | comment note => exact ⟨'#', note, rfl, isIdentifierPart_numberSign⟩
  | token t =>
    obtain ⟨c, htext, hc, -⟩ := startToken?_sign (t := t) fun s hs => hname s (by rw [hs])
    exact ⟨c, [], htext, hc⟩

theorem head?_flatMap_text {pieces : List Piece} (hproper : ∀ p ∈ pieces, p.IsProper)
    (hfirst : ∀ q ∈ pieces.head?, ∀ s, q ≠ .token (.name s)) :
    ∀ c ∈ (pieces.flatMap Piece.text).head?, Text.isIdentifierPart c = false := by
  cases pieces with
  | nil => simp
  | cons q later =>
    obtain ⟨c, more, htext, hc⟩ :=
      Piece.exists_text_eq_cons (hproper q List.mem_cons_self) (hfirst q rfl)
    simp [htext, hc]

/-- Behind a comment the text ends or its line does. -/
theorem tokensFrom_comment_pieces {pieces : List Piece}
    (hfirst : ∀ q ∈ pieces.head?, q = .blank '\n') :
    tokensFrom .comment (pieces.flatMap Piece.text) =
      tokensFrom .between (pieces.flatMap Piece.text) := by
  cases pieces with
  | nil => rfl
  | cons q later =>
    obtain rfl := hfirst q rfl
    simp [Piece.text, tokensFrom, lexStep, startToken?_blank isBlank_lineFeed]

theorem tokensFrom_pieces {pieces : List Piece} (hproper : ∀ p ∈ pieces, p.IsProper)
    (hapart : pieces.IsChain Piece.MayPrecede) :
    tokensFrom .between (pieces.flatMap Piece.text) = some (pieces.filterMap Piece.token?) := by
  induction pieces with
  | nil => rfl
  | cons p rest ih =>
    obtain ⟨hp, hrest⟩ := List.forall_mem_cons.mp hproper
    obtain ⟨hnext, hchain⟩ := List.isChain_cons.mp hapart
    specialize ih hrest hchain
    cases p with
    | blank c => simp [Piece.text, tokensFrom, lexStep, startToken?_blank hp, ih, Piece.token?,
        List.filterMap_cons]
    | comment note =>
      simp [Piece.text, tokensFrom, lexStep, startToken?_numberSign,
        tokensFrom_comment_append hp, tokensFrom_comment_pieces hnext, ih, Piece.token?,
        List.filterMap_cons]
    | token t =>
      by_cases hsign : ∀ s, t ≠ .name s
      · obtain ⟨c, htext, -, hc⟩ := startToken?_sign hsign
        simp [Piece.text, htext, tokensFrom, lexStep, hc, ih, Piece.token?]
      · obtain ⟨s, rfl⟩ : ∃ s, t = .name s := by simpa using hsign
        have hhead := head?_flatMap_text hrest fun q hq s' hname => by
          rw [hname] at hq
          exact hnext _ hq
        cases s with
        | nil => exact hp.elim
        | cons c part =>
          obtain ⟨hstart, hpart⟩ := hp
          simp [Piece.text, Token.text, tokensFrom, lexStep, startToken?_start hstart,
            tokensFrom_name_append [c] hpart, tokensFrom_name_of_head? _ hhead, ih, Piece.token?]

/-! ## Texts that are read spell their tokens -/

theorem Spells.nil : Spells [] [] [] := ⟨by simp, .nil, rfl, rfl⟩

theorem Spells.cons {p : Piece} {pieces : List Piece} {tokens : List Token} {text : List Char}
    (h : Spells pieces tokens text) (hp : p.IsProper)
    (hnext : ∀ q ∈ pieces.head?, p.MayPrecede q) :
    Spells (p :: pieces) (p.token?.toList ++ tokens) (p.text ++ text) where
  isProper := List.forall_mem_cons.mpr ⟨hp, h.isProper⟩
  apart := List.isChain_cons.mpr ⟨hnext, h.apart⟩
  tokens_eq := by
    rw [← h.tokens_eq]
    cases hp : p.token? <;> simp [hp]
  text_eq := by simp [h.text_eq]

theorem Spells.cons_token {t : Token} {pieces : List Piece} {tokens : List Token}
    {text : List Char} (h : Spells pieces tokens text) (ht : t.IsProper)
    (hnext : ∀ q ∈ pieces.head?, (Piece.token t).MayPrecede q) :
    Spells (.token t :: pieces) (t :: tokens) (t.text ++ text) :=
  h.cons ht hnext

/-- One more character of a comment. -/
theorem Spells.comment_cons {c : Char} {note text : List Char} {pieces : List Piece}
    {tokens : List Token} (h : Spells (.comment note :: pieces) tokens ('#' :: text))
    (hc : c ≠ '\n') : Spells (.comment (c :: note) :: pieces) tokens ('#' :: c :: text) where
  isProper := by
    obtain ⟨hnote, hpieces⟩ := List.forall_mem_cons.mp h.isProper
    refine List.forall_mem_cons.mpr ⟨?_, hpieces⟩
    simpa [Piece.IsProper, hc.symm] using hnote
  apart := by
    obtain ⟨hnext, hpieces⟩ := List.isChain_cons.mp h.apart
    exact List.isChain_cons.mpr ⟨hnext, hpieces⟩
  tokens_eq := h.tokens_eq
  text_eq := by simpa [Piece.text] using h.text_eq

/-- The text before the walk spells the tokens that are still to come, a comment or a name that has
begun included. -/
def Lexing.Completes (state : Lexing) (tokens : List Token) (text : List Char) : Prop :=
  match state with
  | .between => ∃ pieces, Spells pieces tokens text
  | .comment => ∃ note pieces, Spells (.comment note :: pieces) tokens ('#' :: text)
  | .name done => ∃ s pieces, Spells (.token (.name s) :: pieces) tokens (done.reverse ++ text)

/-- The walk stands in a name only behind the beginning of one. -/
def Lexing.IsProper : Lexing → Prop
  | .name done => (Token.name done.reverse).IsProper
  | _ => True

theorem Token.IsProper.name_append {s : List Char} {c : Char} (hs : (Token.name s).IsProper)
    (hc : Text.isIdentifierPart c = true) : (Token.name (s ++ [c])).IsProper := by
  cases s with
  | nil => exact hs.elim
  | cons d part =>
    refine ⟨hs.1, fun e he => ?_⟩
    rcases List.mem_append.mp he with he | he
    · exact hs.2 e he
    · rwa [List.mem_singleton.mp he]

theorem startToken?_isProper {c : Char} {state : Lexing} {now : List Token}
    (hstart : startToken? c = some (state, now)) : state.IsProper := by
  obtain ⟨-, rfl, -⟩ | ⟨-, rfl, -⟩ | ⟨-, -, -, rfl, -⟩ | ⟨hc, rfl, -⟩ := startToken?_cases hstart
  · trivial
  · trivial
  · trivial
  · exact ⟨hc, by simp⟩

theorem Lexing.Completes.of_startToken? {c : Char} {state : Lexing} {now later : List Token}
    {rest : List Char} (hrest : state.Completes later rest)
    (hstart : startToken? c = some (state, now)) :
    ∃ pieces, Spells pieces (now ++ later) (c :: rest) := by
  obtain ⟨hc, rfl, rfl⟩ | ⟨rfl, rfl, rfl⟩ | ⟨t, ht, htext, rfl, rfl⟩ | ⟨hc, rfl, rfl⟩ :=
    startToken?_cases hstart
  · obtain ⟨pieces, hpieces⟩ := hrest
    exact ⟨_, hpieces.cons (p := .blank c) hc fun _ _ => trivial⟩
  · obtain ⟨note, pieces, hpieces⟩ := hrest
    exact ⟨_, hpieces⟩
  · obtain ⟨pieces, hpieces⟩ := hrest
    have hproper : t.IsProper := by
      cases t with
      | name s => exact absurd rfl (ht s)
      | _ => trivial
    have hnext : ∀ q ∈ pieces.head?, (Piece.token t).MayPrecede q := by
      cases t with
      | name s => exact absurd rfl (ht s)
      | _ => exact fun _ _ => trivial
    have h := hpieces.cons_token hproper hnext
    rw [htext] at h
    exact ⟨_, h⟩
  · obtain ⟨s, pieces, hpieces⟩ := hrest
    exact ⟨_, hpieces⟩

/-- The first piece of a text is no name if its first character starts none. -/
theorem Spells.head?_ne_name {pieces : List Piece} {tokens : List Token} {c : Char}
    {text : List Char} (h : Spells pieces tokens (c :: text))
    (hc : Text.isIdentifierPart c = false) (s : List Char) :
    pieces.head? ≠ some (.token (.name s)) := by
  intro hhead
  obtain ⟨rest, rfl⟩ := List.head?_eq_some_iff.mp hhead
  have hs : (Token.name s).IsProper := h.isProper _ List.mem_cons_self
  have htext : s ++ rest.flatMap Piece.text = c :: text := h.text_eq
  cases s with
  | nil => exact hs
  | cons d part =>
    obtain rfl : d = c := (List.cons.inj htext).1
    have hpart := Text.isIdentifierPart_of_isIdentifierStart hs.1
    rw [hc] at hpart
    cases hpart

theorem completes_of_tokensFrom {state : Lexing} {tokens : List Token} {text : List Char}
    (hproper : state.IsProper) (h : tokensFrom state text = some tokens) :
    state.Completes tokens text := by
  induction text generalizing state tokens with
  | nil =>
    cases state with
    | between =>
      cases h
      exact ⟨[], .nil⟩
    | comment =>
      cases h
      exact ⟨[], [], Spells.nil.cons (p := .comment []) List.not_mem_nil (by simp)⟩
    | name done =>
      cases h
      exact ⟨done.reverse, [], Spells.nil.cons_token hproper (by simp)⟩
  | cons c rest ih =>
    -- The step between tokens, which a name that ends here takes as well.
    have hbetween {tokens} (h : tokensFrom .between (c :: rest) = some tokens) :
        ∃ pieces, Spells pieces tokens (c :: rest) := by
      obtain ⟨next, now, later, hstep, hlater, rfl⟩ := tokensFrom_cons_eq_some_iff.mp h
      exact (ih (startToken?_isProper hstep) hlater).of_startToken? hstep
    cases state with
    | between => exact hbetween h
    | comment =>
      obtain ⟨next, now, later, hstep, hlater, rfl⟩ := tokensFrom_cons_eq_some_iff.mp h
      by_cases hc : c = '\n'
      · subst hc
        cases hstep
        obtain ⟨pieces, hpieces⟩ := ih (show Lexing.between.IsProper from trivial) hlater
        have hline : (Piece.blank '\n').IsProper := by simp [Piece.IsProper, isBlank_lineFeed]
        refine ⟨[], .blank '\n' :: pieces, ?_⟩
        exact (hpieces.cons hline fun _ _ => trivial).cons (p := .comment []) List.not_mem_nil
          (by simp [Piece.MayPrecede])
      · simp only [lexStep, hc, if_false] at hstep
        cases hstep
        obtain ⟨note, pieces, hpieces⟩ := ih (show Lexing.comment.IsProper from trivial) hlater
        exact ⟨c :: note, pieces, hpieces.comment_cons hc⟩
    | name done =>
      cases hc : Text.isIdentifierPart c with
      | true =>
        obtain ⟨next, now, later, hstep, hlater, rfl⟩ := tokensFrom_cons_eq_some_iff.mp h
        simp only [lexStep, hc, if_true] at hstep
        cases hstep
        have hgrown : (Token.name (c :: done).reverse).IsProper := by
          rw [List.reverse_cons]
          exact hproper.name_append hc
        simpa [Lexing.Completes] using ih (show Lexing.IsProper (.name (c :: done)) from hgrown) hlater
      | false =>
        rw [tokensFrom_name_of_head? done (by simpa using hc)] at h
        obtain ⟨more, hmore, rfl⟩ := Option.map_eq_some_iff.mp h
        obtain ⟨pieces, hpieces⟩ := hbetween hmore
        refine ⟨done.reverse, pieces, hpieces.cons_token hproper fun q hq => ?_⟩
        match q with
        | .token (.name s) => exact absurd hq (hpieces.head?_ne_name hc s)
        | .blank _ | .comment _ | .token .openBlock | .token .closeBlock | .token .comma =>
          trivial

theorem tokensFrom_eq_some_iff {text : List Char} {tokens : List Token} :
    tokensFrom .between text = some tokens ↔ ∃ pieces, Spells pieces tokens text := by
  constructor
  · exact completes_of_tokensFrom trivial
  · rintro ⟨pieces, h⟩
    rw [← h.text_eq, ← h.tokens_eq]
    exact tokensFrom_pieces h.isProper h.apart

end NestedRows.Selection
