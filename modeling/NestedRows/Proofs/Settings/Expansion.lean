import NestedRows.Settings.Basic
import NestedRows.Proofs.Text.Words
/-!
# Texts with variables

A text with references to variables is read in one way only (`Reads`): as runs of characters other than the
dollar sign, names with and without braces, and dollar signs with no name behind them, each as long as it can
be. What the text becomes is read off these segments one by one: a reference becomes the value of its
variable, which is not read again, and everything else stands for itself. The one error is a name that has no
value, and it is the first such name (`Environment.expand_segments`).

The walk that expands a text gives pieces as it goes, a character or a reference each. That these are the
pieces of the segments is seen segment by segment (`Segment.piecesFrom_append`), with the characters that
follow in view, because they end a segment.
-/

namespace NestedRows.Environment

open Text

/-- A part of a text as it is written. -/
inductive Segment where
  /-- Characters other than the dollar sign. -/
  | plain (text : List Char)
  /-- A name between braces. -/
  | braced (name : List Char)
  /-- A name behind an opening brace that goes on to the end of the text. -/
  | unclosed (name : List Char)
  /-- A name without braces. -/
  | bare (name : List Char)
  /-- A dollar sign with no name behind it. -/
  | dollar
  deriving DecidableEq

namespace Segment

def text : Segment → List Char
  | plain text => text
  | braced name => '$' :: '\x7b' :: name ++ ['\x7d']
  | unclosed name => '$' :: '\x7b' :: name
  | bare name => '$' :: name
  | dollar => ['$']

/-- The name of the variable that is referred to. -/
def name? : Segment → Option (List Char)
  | plain _ => none
  | braced name => some name
  | unclosed name => some name
  | bare name => some name
  | dollar => none

/-- What stands in the place of the segment, if its variable has a value. -/
def value (env : Environment) : Segment → List Char
  | plain text => text
  | braced name => (env.get? name).getD []
  | unclosed name => (env.get? name).getD []
  | bare name => (env.get? name).getD []
  | dollar => ['$']

/-- Whether the segment has the characters that its kind admits. -/
def IsProper : Segment → Prop
  | plain text => text ≠ [] ∧ '$' ∉ text
  | braced name => '\x7d' ∉ name
  | unclosed name => '\x7d' ∉ name
  | bare name => name ≠ [] ∧ ∀ c ∈ name, isNamePart c = true
  | dollar => True

/-- Whether the segment cannot go on into what is behind it. -/
def EndsAt (rest : List Char) : Segment → Prop
  | plain _ => ∀ c ∈ rest.head?, c = '$'
  | braced _ => True
  | unclosed _ => rest = []
  | bare _ => ∀ c ∈ rest.head?, isNamePart c = false
  | dollar => ∀ c ∈ rest.head?, c ≠ '\x7b' ∧ isNamePart c = false

/-- The pieces that the walk over the text makes of the segment. -/
def pieces : Segment → List Piece
  | plain text => text.map .char
  | braced name => [.reference name]
  | unclosed name => [.reference name]
  | bare name => [.reference name]
  | dollar => [.char '$']

end Segment

/-- The text consists of the segments, each as long as it can be. -/
inductive Reads : List Char → List Segment → Prop
  | nil : Reads [] []
  | cons {segment : Segment} {rest : List Char} {segments : List Segment}
      (hproper : segment.IsProper) (hend : segment.EndsAt rest) (hrest : Reads rest segments) :
      Reads (segment.text ++ rest) (segment :: segments)

/-- The first segment of a text that begins with `c`, and what is behind it. -/
def firstSegment (c : Char) (rest : List Char) : Segment × List Char :=
  if c ≠ '$' then (.plain (c :: rest.takeWhile (· != '$')), rest.dropWhile (· != '$'))
  else if rest.head? = some '\x7b' then
    if '\x7d' ∈ rest.tail then
      (.braced (rest.tail.takeWhile (· != '\x7d')), (rest.tail.dropWhile (· != '\x7d')).tail)
    else (.unclosed rest.tail, [])
  else if rest.takeWhile isNamePart = [] then (.dollar, rest)
  else (.bare (rest.takeWhile isNamePart), rest.dropWhile isNamePart)

/-! ### Runs of characters other than one -/

theorem ne_of_notMem {mark : Char} {l : List Char} (h : mark ∉ l) : ∀ c ∈ l, (c != mark) = true := by
  intro c hc
  simp only [bne_iff_ne]
  exact fun heq => h (heq ▸ hc)

theorem notMem_takeWhile {mark : Char} {l : List Char} : mark ∉ l.takeWhile (· != mark) := by
  intro hmem
  simpa using List.mem_takeWhile_imp hmem

/-! ### There is one way to read a text -/

theorem isNamePart_brace : isNamePart '\x7b' = false := by decide +kernel

theorem firstSegment_spec (c : Char) (rest : List Char) :
    (firstSegment c rest).1.text ++ (firstSegment c rest).2 = c :: rest ∧
    (firstSegment c rest).1.IsProper ∧ (firstSegment c rest).1.EndsAt (firstSegment c rest).2 := by
  rw [firstSegment]
  by_cases hplain : c ≠ '$'
  · rw [if_pos hplain]
    refine ⟨?_, ⟨List.cons_ne_nil _ _, ?_⟩, ?_⟩
    · rw [Segment.text, List.cons_append, List.takeWhile_append_dropWhile]
    · exact List.not_mem_cons_of_ne_of_not_mem (Ne.symm hplain) notMem_takeWhile
    · intro d hd
      simpa using head?_dropWhile d hd
  obtain rfl := not_not.mp hplain
  rw [if_neg hplain]
  by_cases hbrace : rest.head? = some '\x7b'
  · rw [if_pos hbrace]
    obtain ⟨rest, rfl⟩ := List.head?_eq_some_iff.mp hbrace
    rw [List.tail_cons]
    by_cases hclosed : '\x7d' ∈ rest
    · rw [if_pos hclosed]
      refine ⟨?_, notMem_takeWhile, trivial⟩
      have hsplit : rest.takeWhile (· != '\x7d') ++ rest.dropWhile (· != '\x7d') = rest :=
        List.takeWhile_append_dropWhile
      have hne : rest.dropWhile (· != '\x7d') ≠ [] := by
        intro hnil
        rw [hnil, List.append_nil] at hsplit
        rw [← hsplit] at hclosed
        exact notMem_takeWhile hclosed
      obtain ⟨d, after, hdrop⟩ := List.exists_cons_of_ne_nil hne
      obtain rfl : d = '\x7d' := bne_eq_false_iff_eq.mp (head?_dropWhile d (by rw [hdrop]; rfl))
      rw [hdrop, List.tail_cons, Segment.text, List.append_assoc, List.singleton_append, List.cons_append,
        List.cons_append, ← hdrop, hsplit]
    · rw [if_neg hclosed]
      exact ⟨List.append_nil _, hclosed, rfl⟩
  rw [if_neg hbrace]
  by_cases hname : rest.takeWhile isNamePart = []
  · rw [if_pos hname]
    refine ⟨rfl, trivial, ?_⟩
    intro d hd
    refine ⟨fun heq => hbrace (heq ▸ hd), ?_⟩
    obtain ⟨tail, rfl⟩ := List.head?_eq_some_iff.mp hd
    simpa using hname
  · rw [if_neg hname]
    refine ⟨?_, ⟨hname, fun d hd => List.mem_takeWhile_imp hd⟩, head?_dropWhile⟩
    rw [Segment.text, List.cons_append, List.takeWhile_append_dropWhile]

/-- Whatever the first segment of a text is, it is found. -/
theorem firstSegment_eq {segment : Segment} {rest : List Char} (hproper : segment.IsProper)
    (hend : segment.EndsAt rest) : ∃ c tail, segment.text ++ rest = c :: tail ∧
      firstSegment c tail = (segment, rest) := by
  cases segment with
  | plain text =>
    obtain ⟨hne, hdollar⟩ := hproper
    obtain ⟨c, text, rfl⟩ := List.exists_cons_of_ne_nil hne
    have hc : '$' ≠ c := List.ne_of_not_mem_cons hdollar
    have htext : '$' ∉ text := List.not_mem_of_not_mem_cons hdollar
    have hstop : ∀ d ∈ rest.head?, (d != '$') = false := by
      intro d hd
      rw [hend d hd]
      rfl
    refine ⟨c, text ++ rest, rfl, ?_⟩
    rw [firstSegment, if_pos hc.symm, takeWhile_run (ne_of_notMem htext) hstop,
      dropWhile_run (ne_of_notMem htext) hstop]
  | braced name =>
    have hstop : ∀ d ∈ ('\x7d' :: rest).head?, (d != '\x7d') = false := by simp
    have hclosed : '\x7d' ∈ name ++ '\x7d' :: rest := List.mem_append_right _ List.mem_cons_self
    refine ⟨'$', '\x7b' :: (name ++ '\x7d' :: rest), by simp [Segment.text], ?_⟩
    rw [firstSegment, if_neg (by simp), List.tail_cons, List.head?_cons, if_pos rfl, if_pos hclosed,
      takeWhile_run (ne_of_notMem hproper) hstop, dropWhile_run (ne_of_notMem hproper) hstop, List.tail_cons]
  | unclosed name =>
    obtain rfl : rest = [] := hend
    refine ⟨'$', '\x7b' :: name, List.append_nil _, ?_⟩
    rw [firstSegment, if_neg (by simp), List.tail_cons, List.head?_cons, if_pos rfl, if_neg hproper]
  | bare name =>
    obtain ⟨hne, hrun⟩ := hproper
    obtain ⟨c, tail, rfl⟩ := List.exists_cons_of_ne_nil hne
    have hbrace : ((c :: tail) ++ rest).head? ≠ some '\x7b' := by
      intro heq
      have hc := hrun c List.mem_cons_self
      rw [Option.some.inj heq, isNamePart_brace] at hc
      cases hc
    refine ⟨'$', (c :: tail) ++ rest, rfl, ?_⟩
    rw [firstSegment, if_neg (by simp), if_neg hbrace, takeWhile_run hrun hend, dropWhile_run hrun hend,
      if_neg (List.cons_ne_nil _ _)]
  | dollar =>
    have hbrace : rest.head? ≠ some '\x7b' := fun heq => (hend _ heq).1 rfl
    have hempty : ∀ d ∈ ([] : List Char), isNamePart d = true := by simp
    have hname : rest.takeWhile isNamePart = [] := takeWhile_run hempty fun d hd => (hend d hd).2
    refine ⟨'$', rest, rfl, ?_⟩
    rw [firstSegment, if_neg (by simp), if_neg hbrace, if_pos hname]

theorem Segment.text_ne_nil {segment : Segment} (h : segment.IsProper) : segment.text ≠ [] := by
  cases segment with
  | plain text => exact h.1
  | braced name => exact List.cons_ne_nil _ _
  | unclosed name => exact List.cons_ne_nil _ _
  | bare name => exact List.cons_ne_nil _ _
  | dollar => exact List.cons_ne_nil _ _

theorem exists_reads : (text : List Char) → ∃ segments, Reads text segments
  | [] => ⟨[], .nil⟩
  | c :: rest => by
    obtain ⟨htext, hproper, hend⟩ := firstSegment_spec c rest
    have hshorter : (firstSegment c rest).2.length < (c :: rest).length := by
      have hpos := List.length_pos_iff.mpr (Segment.text_ne_nil hproper)
      rw [← htext, List.length_append]
      omega
    obtain ⟨segments, hrest⟩ := exists_reads (firstSegment c rest).2
    refine ⟨(firstSegment c rest).1 :: segments, ?_⟩
    rw [← htext]
    exact .cons hproper hend hrest
termination_by text => text.length
decreasing_by exact hshorter

theorem Reads.unique {text : List Char} {segments others : List Segment} (h : Reads text segments)
    (hother : Reads text others) : others = segments := by
  induction h generalizing others with
  | nil =>
    generalize htext : ([] : List Char) = text at hother
    cases hother with
    | nil => rfl
    | cons hproper _ _ =>
      exact absurd (List.append_eq_nil_iff.mp htext.symm).1 (Segment.text_ne_nil hproper)
  | cons hproper hend _ ih =>
    obtain ⟨c, tail, htext, hfirst⟩ := firstSegment_eq hproper hend
    rw [htext] at hother
    generalize hwhole : c :: tail = whole at hother
    cases hother with
    | nil => cases hwhole
    | cons hproper' hend' hrest' =>
      obtain ⟨c', tail', htext', hfirst'⟩ := firstSegment_eq hproper' hend'
      obtain ⟨rfl, rfl⟩ := List.cons.inj (hwhole.trans htext')
      obtain ⟨rfl, rfl⟩ := Prod.mk.inj (hfirst.symm.trans hfirst')
      rw [ih hrest']

/-! ### The walk makes the pieces of the segments -/

theorem piecesFrom_cons {state next : Scanning} {c : Char} {pieces : List Piece} {rest : List Char}
    (h : scanStep state c = (next, pieces)) :
    piecesFrom state (c :: rest) = pieces ++ piecesFrom next rest := by
  cases state <;> rw [piecesFrom, h]

theorem piecesFrom_run {text rest : List Char} (h : '$' ∉ text) :
    piecesFrom .plain (text ++ rest) = text.map .char ++ piecesFrom .plain rest := by
  induction text with
  | nil => rfl
  | cons c text ih =>
    have hstep : scanStep .plain c = (.plain, [.char c]) :=
      if_neg (Ne.symm (List.ne_of_not_mem_cons h))
    rw [List.cons_append, piecesFrom_cons hstep, ih (List.not_mem_of_not_mem_cons h)]
    rfl

/-- Between braces, the walk collects characters. -/
theorem piecesFrom_inside {name : List Char} (h : '\x7d' ∉ name) (before rest : List Char) :
    piecesFrom (.braced before) (name ++ rest) = piecesFrom (.braced (name.reverse ++ before)) rest := by
  induction name generalizing before with
  | nil => rfl
  | cons c name ih =>
    have hstep : scanStep (.braced before) c = (.braced (c :: before), []) :=
      if_neg (Ne.symm (List.ne_of_not_mem_cons h))
    rw [List.cons_append, piecesFrom_cons hstep, ih (List.not_mem_of_not_mem_cons h), List.reverse_cons,
      List.append_assoc]
    rfl

theorem piecesFrom_braced {name : List Char} (h : '\x7d' ∉ name) (rest : List Char) :
    piecesFrom (.braced []) (name ++ '\x7d' :: rest) = .reference name :: piecesFrom .plain rest := by
  have hstep : scanStep (.braced name.reverse) '\x7d' = (.plain, [.reference name.reverse.reverse]) := by
    rw [scanStep, if_pos rfl]
  rw [piecesFrom_inside h, List.append_nil, piecesFrom_cons hstep, List.reverse_reverse]
  rfl

theorem piecesFrom_unclosed {name : List Char} (h : '\x7d' ∉ name) :
    piecesFrom (.braced []) name = [.reference name] := by
  have hinside := piecesFrom_inside h [] []
  rw [List.append_nil, List.append_nil] at hinside
  rw [hinside, piecesFrom, List.reverse_reverse]

theorem piecesFrom_name {name : List Char} (h : ∀ c ∈ name, isNamePart c = true) (before rest : List Char) :
    piecesFrom (.bare before) (name ++ rest) = piecesFrom (.bare (name.reverse ++ before)) rest := by
  induction name generalizing before with
  | nil => rfl
  | cons c name ih =>
    have hstep : scanStep (.bare before) c = (.bare (c :: before), []) := if_pos (h c List.mem_cons_self)
    rw [List.cons_append, piecesFrom_cons hstep, ih (fun d hd => h d (List.mem_cons_of_mem _ hd)),
      List.reverse_cons, List.append_assoc]
    rfl

/-- The walk leaves a name without braces with the character that ends it, which is read like any other. -/
theorem piecesFrom_bare {rest : List Char} (hstop : ∀ c ∈ rest.head?, isNamePart c = false)
    (before : List Char) :
    piecesFrom (.bare before) rest = .reference before.reverse :: piecesFrom .plain rest := by
  cases rest with
  | nil => rfl
  | cons c rest =>
    have hstep : scanStep (.bare before) c
        = ((scanPlain c).1, .reference before.reverse :: (scanPlain c).2) :=
      if_neg (Bool.eq_false_iff.mp (hstop c rfl))
    have hplain : scanStep .plain c = ((scanPlain c).1, (scanPlain c).2) := rfl
    rw [piecesFrom_cons hstep, piecesFrom_cons hplain, List.cons_append]

theorem piecesFrom_dollar {rest : List Char}
    (hstop : ∀ c ∈ rest.head?, c ≠ '\x7b' ∧ isNamePart c = false) :
    piecesFrom .dollar rest = .char '$' :: piecesFrom .plain rest := by
  cases rest with
  | nil => rfl
  | cons c rest =>
    obtain ⟨hbrace, hname⟩ := hstop c rfl
    have hstep : scanStep .dollar c = ((scanPlain c).1, .char '$' :: (scanPlain c).2) := by
      rw [scanStep, if_neg hbrace, if_neg (Bool.eq_false_iff.mp hname)]
    have hplain : scanStep .plain c = ((scanPlain c).1, (scanPlain c).2) := rfl
    rw [piecesFrom_cons hstep, piecesFrom_cons hplain, List.cons_append]

/-- Behind a dollar sign, the walk reads a name as it does behind the first character of the name. -/
theorem piecesFrom_dollar_name {c : Char} {rest : List Char} (hc : isNamePart c = true) :
    piecesFrom .plain ('$' :: c :: rest) = piecesFrom (.bare [c]) rest := by
  have hbrace : c ≠ '\x7b' := by
    intro heq
    rw [heq, isNamePart_brace] at hc
    cases hc
  have hstep : scanStep .dollar c = (.bare [c], []) := by rw [scanStep, if_neg hbrace, if_pos hc]
  have hdollar : scanStep .plain '$' = (.dollar, []) := rfl
  rw [piecesFrom_cons hdollar, piecesFrom_cons hstep]
  rfl

theorem Segment.piecesFrom_append {segment : Segment} {rest : List Char} (hproper : segment.IsProper)
    (hend : segment.EndsAt rest) :
    piecesFrom .plain (segment.text ++ rest) = segment.pieces ++ piecesFrom .plain rest := by
  cases segment with
  | plain text => exact piecesFrom_run hproper.2
  | braced name =>
    rw [text, List.append_assoc]
    exact piecesFrom_braced hproper rest
  | unclosed name =>
    obtain rfl : rest = [] := hend
    rw [List.append_nil]
    exact piecesFrom_unclosed hproper
  | bare name =>
    obtain ⟨hne, hrun⟩ := hproper
    obtain ⟨c, tail, rfl⟩ := List.exists_cons_of_ne_nil hne
    have htail : ∀ d ∈ tail, isNamePart d = true := fun d hd => hrun d (List.mem_cons_of_mem _ hd)
    rw [text, List.cons_append, List.cons_append, piecesFrom_dollar_name (hrun c List.mem_cons_self),
      piecesFrom_name htail, piecesFrom_bare hend, List.reverse_append, List.reverse_reverse]
    rfl
  | dollar => exact piecesFrom_dollar hend

theorem Reads.piecesFrom_eq {text : List Char} {segments : List Segment} (h : Reads text segments) :
    piecesFrom .plain text = segments.flatMap Segment.pieces := by
  induction h with
  | nil => rfl
  | cons hproper hend _ ih => rw [Segment.piecesFrom_append hproper hend, ih, List.flatMap_cons]

/-! ### What becomes of the segments -/

/-- The names that a text refers to, in order. -/
def namesOf (segments : List Segment) : List (List Char) := segments.filterMap Segment.name?

/-- Whether a variable has no value. -/
def lacks (env : Environment) (name : List Char) : Bool := (env.get? name).isNone

/-- The characters that the pieces stand for. -/
def replaced (env : Environment) (pieces : List Piece) : Except String (List Char) :=
  (pieces.mapM (Piece.expand env)).map List.flatten

theorem replaced_append (env : Environment) (pieces more : List Piece) :
    env.replaced (pieces ++ more)
      = (env.replaced pieces >>= fun first => (env.replaced more).map fun rest => first ++ rest) := by
  rw [replaced, List.mapM_append, replaced, replaced]
  cases pieces.mapM (Piece.expand env) with
  | error e => rfl
  | ok first =>
    cases more.mapM (Piece.expand env) with
    | error e => rfl
    | ok rest => simp [bind, Except.bind, Except.map, pure, Except.pure]

theorem replaced_chars (env : Environment) (text : List Char) :
    env.replaced (text.map .char) = .ok text := by
  induction text with
  | nil => rfl
  | cons c text ih =>
    have hfirst : env.replaced [.char c] = .ok [c] := rfl
    rw [List.map_cons, ← List.singleton_append, replaced_append, hfirst, ih]
    rfl

theorem replaced_reference (env : Environment) (name : List Char) :
    env.replaced [.reference name]
      = if env.lacks name then .error (String.ofList name) else .ok ((env.get? name).getD []) := by
  rw [replaced, List.mapM_cons, List.mapM_nil, Piece.expand, lacks]
  cases env.get? name with
  | none => rfl
  | some value => exact congrArg Except.ok (List.append_nil value)

/-- One segment: the error of its name, or what stands in its place. -/
theorem replaced_segment (env : Environment) (segment : Segment) :
    env.replaced segment.pieces =
      match segment.name?.filter env.lacks with
      | some name => .error (String.ofList name)
      | none => .ok (segment.value env) := by
  have hnamed (name : List Char) : env.replaced [.reference name] =
      match (some name).filter env.lacks with
      | some name => .error (String.ofList name)
      | none => .ok ((env.get? name).getD []) := by
    rw [replaced_reference, Option.filter_some]
    cases env.lacks name <;> rfl
  cases segment with
  | plain text => exact replaced_chars env text
  | braced name => exact hnamed name
  | unclosed name => exact hnamed name
  | bare name => exact hnamed name
  | dollar => rfl

theorem find?_namesOf_cons (env : Environment) (segment : Segment) (segments : List Segment) :
    (namesOf (segment :: segments)).find? env.lacks
      = (segment.name?.filter env.lacks).or ((namesOf segments).find? env.lacks) := by
  rw [namesOf, List.filterMap_cons]
  cases segment.name? with
  | none => rfl
  | some name =>
    rw [List.find?_cons, Option.filter_some]
    cases env.lacks name <;> rfl

/-- Many segments: the error of the first name that has no value, or what stands in their places. -/
theorem replaced_segments (env : Environment) (segments : List Segment) :
    env.replaced (segments.flatMap Segment.pieces) =
      match (namesOf segments).find? env.lacks with
      | some name => .error (String.ofList name)
      | none => .ok (segments.flatMap (Segment.value env)) := by
  induction segments with
  | nil => rfl
  | cons segment segments ih =>
    rw [List.flatMap_cons, replaced_append, replaced_segment, ih, find?_namesOf_cons, List.flatMap_cons]
    cases segment.name?.filter env.lacks with
    | some name => rfl
    | none =>
      cases (namesOf segments).find? env.lacks with
      | some name => rfl
      | none => rfl

theorem Reads.expand_eq {env : Environment} {s : String} {segments : List Segment}
    (h : Reads s.toList segments) :
    env.expand s =
      match (namesOf segments).find? env.lacks with
      | some name => .error (String.ofList name)
      | none => .ok (String.ofList (segments.flatMap (Segment.value env))) := by
  have hexpand : env.expand s = (env.replaced (piecesFrom .plain s.toList)).map String.ofList := by
    rw [expand, replaced]
    cases (piecesFrom .plain s.toList).mapM (Piece.expand env) with
    | error e => rfl
    | ok parts => rfl
  rw [hexpand, h.piecesFrom_eq, replaced_segments]
  cases (namesOf segments).find? env.lacks with
  | some name => rfl
  | none => rfl

theorem find?_namesOf_eq_none {env : Environment} {segments : List Segment} :
    (namesOf segments).find? env.lacks = none ↔ ∀ name ∈ namesOf segments, (env.get? name).isSome := by
  rw [List.find?_eq_none]
  refine forall₂_congr fun name _ => ?_
  rw [lacks, Bool.not_eq_true, Option.isNone_eq_false_iff]

/-- A text is read in one way. If all the variables that it names have a value, it becomes the plain
characters, the dollar signs that begin no name, and these values, as they are. Otherwise the first name
without a value is the error. -/
theorem expand_segments (env : Environment) (s : String) :
    ∃ segments, Reads s.toList segments ∧ (∀ others, Reads s.toList others → others = segments) ∧
      (∀ t : String, env.expand s = .ok t ↔
        (∀ name ∈ namesOf segments, (env.get? name).isSome) ∧
          t.toList = segments.flatMap (Segment.value env)) ∧
      (∀ problem : String, env.expand s = .error problem ↔
        (namesOf segments).find? env.lacks = some problem.toList) ∧
      ∀ (settings : DatabaseSettings) (e : SettingsError),
        { settings with url := s }.resolvedUrl env = .error e ↔
          ∃ name, e = .missingVariable (String.ofList name) ∧
            (namesOf segments).find? env.lacks = some name := by
  obtain ⟨segments, hreads⟩ := exists_reads s.toList
  have hexpand : env.expand s = _ := hreads.expand_eq
  refine ⟨segments, hreads, fun others hothers => hreads.unique hothers, ?_, ?_, ?_⟩
  · intro t
    rw [hexpand, ← find?_namesOf_eq_none]
    cases (namesOf segments).find? env.lacks with
    | some name => simp
    | none => simp [String.ext_iff, eq_comm]
  · intro problem
    rw [hexpand]
    cases (namesOf segments).find? env.lacks with
    | some name => simp [String.ext_iff]
    | none => simp
  · intro settings e
    rw [DatabaseSettings.resolvedUrl, hexpand]
    cases (namesOf segments).find? env.lacks with
    | some name => simp [Except.mapError, eq_comm]
    | none => simp [Except.mapError]

/-- A value that looks like a reference stays as it is. -/
example : expand ⟨[("A", "$A$\x7bB\x7d")]⟩ "$$A-$\x7bA\x7d$" = .ok "$$A$\x7bB\x7d-$A$\x7bB\x7d$" := by
  decide +kernel

end NestedRows.Environment
