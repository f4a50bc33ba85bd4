import AppDescription.Proofs.ExpressionPasses
import AppDescription.Proofs.LetterCase

namespace AppDescription

namespace Vue

/-- The operators that stand between two operands. -/
inductive Connective where
  | equals | notEquals | and | or
  deriving Repr, DecidableEq

namespace Connective

def word : Connective → Text
  | equals => "equals"
  | notEquals => "not equals"
  | and => "and"
  | or => "or"

def symbol : Connective → Text
  | equals => "==="
  | notEquals => "!=="
  | and => "&&"
  | or => "||"

end Connective

/-- White space between two words of an expression. -/
structure Gap where
  text : Text
  isGap : text.IsGap

/-- An operand that is not made of others: names, numbers and paths are among them. -/
structure Atom where
  text : Text
  nonempty : text ≠ []
  all : text.all fun c => isWord c || c = '.'
  plain : text ∉ operatorWords

/-- An atom, or `not` with an atom after some white space. -/
structure Operand where
  negation : Option Gap
  atom : Atom

/-- An operator and the operand after it. -/
structure Link where
  before : Gap
  connective : Connective
  after : Gap
  operand : Operand

/-- Operands with operators between them. -/
structure Chain where
  first : Operand
  links : List Link

/-- The atom with its words in the spelling of a directive. -/
def Atom.spelled (atom : Atom) : Text :=
  Text.join ['.'] ((Text.splitOn '.' atom.text).map spelling)

namespace Operand

variable (operand : Operand)

def text : Text :=
  match operand.negation with
  | none => operand.atom.text
  | some gap => "not" ++ (gap.text ++ operand.atom.text)

/-- The sign of a negation, if there is one. -/
def sign : Text :=
  if operand.negation.isSome then ['!'] else []

end Operand

namespace Link

def text (link : Link) : Text :=
  link.before.text ++ (link.connective.word ++ (link.after.text ++ link.operand.text))

/-- The symbol of the operator between single spaces, and the operand as `operand` gives it. -/
def translated (operand : Operand → Text) (link : Link) : Text :=
  ' ' :: (link.connective.symbol ++ ' ' :: operand link.operand)

end Link

namespace Chain

variable (chain : Chain)

def text : Text :=
  chain.first.text ++ chain.links.flatMap Link.text

/-- The chain in symbols. A `not` at the start is none of the operators between operands. -/
def script : Text :=
  chain.first.text ++ chain.links.flatMap
    (Link.translated fun operand => operand.sign ++ operand.atom.text)

/-- The chain in symbols and the spelling of directives. -/
def condition : Text :=
  chain.first.sign ++ chain.first.atom.spelled ++ chain.links.flatMap
    (Link.translated fun operand => operand.sign ++ operand.atom.spelled)

end Chain

theorem Atom.of_mem (atom : Atom) {c : Char} (member : c ∈ atom.text) : isWord c = true ∨ c = '.' := by
  simpa using List.all_eq_true.mp atom.all c member

theorem Atom.isToken (atom : Atom) : atom.text.IsToken := by
  refine ⟨atom.nonempty, fun c member => ?_⟩
  rcases atom.of_mem member with word | rfl
  · exact isBlank_eq_false_of_isWord word
  · decide

namespace Connective

variable (connective : Connective) {token rest : Text}

theorem symbol_isToken : connective.symbol.IsToken := by
  cases connective <;> decide

/-- The first word of an operator. -/
def head : Connective → Text
  | notEquals => "not"
  | connective => connective.word

theorem head_mem : connective.head ∈ operatorWords := by
  cases connective <;> decide

theorem notEquals_word : notEquals.word = "not".toList ++ ' ' :: "equals" := by decide

/-- An operator is not found at a token other than its first word. -/
theorem afterSpacedWord?_of_ne (isToken : token.IsToken) (breaks : Text.Breaks rest)
    (other : token ≠ connective.head) :
    afterSpacedWord? connective.word (token ++ rest) = none := by
  cases connective with
  | notEquals =>
    rw [Option.eq_none_iff_forall_not_mem]
    intro more found
    rw [notEquals_word] at found
    exact other (afterSpacedWord?_pair (by decide) isToken breaks found).1
  | equals | and | or => exact Vue.afterSpacedWord?_of_ne isToken breaks (by decide) other

theorem afterSpacedWord?_atom (atom : Atom) (breaks : Text.Breaks rest) :
    afterSpacedWord? connective.word (atom.text ++ rest) = none :=
  connective.afterSpacedWord?_of_ne atom.isToken breaks fun same =>
    atom.plain (same ▸ connective.head_mem)

theorem afterSpacedWord?_operand (operand : Operand) (breaks : Text.Breaks rest) :
    afterSpacedWord? connective.word (operand.text ++ rest) = none := by
  obtain ⟨negation, atom⟩ := operand
  cases negation with
  | none => exact connective.afterSpacedWord?_atom atom breaks
  | some gap =>
    have whole : Operand.text ⟨some gap, atom⟩ ++ rest =
        "not" ++ (gap.text ++ (atom.text ++ rest)) := by simp [Operand.text]
    have spaced := gap.isGap.breaks (atom.text ++ rest)
    rw [whole]
    cases connective with
    | notEquals =>
      rw [Option.eq_none_iff_forall_not_mem]
      intro more found
      rw [notEquals_word] at found
      obtain ⟨_, _, gap', isGap', same⟩ := afterSpacedWord?_pair isToken_not isToken_not spaced found
      obtain ⟨_, after⟩ := gap.isGap.append_inj (atom.isToken.stops rest) .space
        (isToken_equals.stops (gap' ++ more)) same
      have equals := (atom.isToken.append_inj breaks isToken_equals (isGap'.breaks more) after).1
      exact atom.plain (equals ▸ by decide)
    | equals | and | or => exact afterSpacedWord?_of_ne _ isToken_not spaced (by decide)

end Connective

theorem Operand.stops (operand : Operand) (rest : Text) :
    Stops isBlank (operand.text ++ rest) := by
  obtain ⟨negation, atom⟩ := operand
  cases negation with
  | none => exact atom.isToken.stops rest
  | some gap =>
    rw [Operand.text, List.append_assoc]
    exact isToken_not.stops _

theorem afterSpacedWord?_not (atom : Atom) {rest : Text} (breaks : Text.Breaks rest) :
    afterSpacedWord? "not" (atom.text ++ rest) = none :=
  afterSpacedWord?_of_ne atom.isToken breaks (by decide) fun same => atom.plain (same ▸ by decide)

/-- An operand without a gap before it is left as it is, for any word that no atom is. -/
theorem replaceSpacedWord_operand {word symbol rest : Text} (operand : Operand)
    (none : afterSpacedWord? word (operand.atom.text ++ rest) = none) :
    replaceSpacedWord word symbol (operand.text ++ rest) =
      operand.text ++ replaceSpacedWord word symbol rest := by
  obtain ⟨negation, atom⟩ := operand
  cases negation with
  | none => exact replaceSpacedWord_solid atom.isToken.solid rest
  | some gap =>
    simp only [Operand.text, List.append_assoc]
    rw [replaceSpacedWord_solid isToken_not.solid,
      replaceSpacedWord_gap_missing symbol gap.isGap (atom.isToken.stops rest) none,
      replaceSpacedWord_solid atom.isToken.solid]

section

variable (connective : Connective) (symbol : Text) {rest : Text}

/-- A token other than the first word of an operator is passed over, with the operand after it. -/
theorem replaceSpacedWord_passed {before token after : Text} (isGap : before.IsGap)
    (isToken : token.IsToken) (other : token ≠ connective.head) (isGap' : after.IsGap)
    (operand : Operand) (breaks : Text.Breaks rest) :
    replaceSpacedWord connective.word symbol (before ++ (token ++ (after ++ (operand.text ++ rest)))) =
      before ++ (token ++ (after ++ (operand.text ++ replaceSpacedWord connective.word symbol rest))) := by
  have spaced := isGap'.breaks (operand.text ++ rest)
  rw [replaceSpacedWord_gap_missing symbol isGap (isToken.stops _)
      (connective.afterSpacedWord?_of_ne isToken spaced other),
    replaceSpacedWord_solid isToken.solid,
    replaceSpacedWord_gap_missing symbol isGap' (operand.stops rest)
      (connective.afterSpacedWord?_operand operand breaks),
    replaceSpacedWord_operand operand (connective.afterSpacedWord?_atom operand.atom breaks)]

end

namespace Link

/-- The link while operators are replaced one after the other: those that are done have their
symbols. -/
def partly (done : Connective → Bool) (link : Link) : Text :=
  if done link.connective then link.translated Operand.text else link.text

variable {done : Connective → Bool} {connective : Connective} {rest : Text}

theorem partly_breaks (link : Link) (rest : Text) : Text.Breaks (link.partly done ++ rest) := by
  unfold partly
  split
  · exact Text.IsGap.space.breaks _
  · rw [text, List.append_assoc]
    exact link.before.isGap.breaks _

/-- The pass for an operator replaces it in a link, and leaves other links as they are. The two words of
`not equals` go before anything else. -/
theorem replaceSpacedWord_partly (ready : connective = .notEquals ∨ done .notEquals = true)
    (link : Link) (breaks : Text.Breaks rest) :
    replaceSpacedWord connective.word (' ' :: (connective.symbol ++ [' '])) (link.partly done ++ rest) =
      link.partly (fun other => done other || other = connective) ++
        replaceSpacedWord connective.word (' ' :: (connective.symbol ++ [' '])) rest := by
  obtain ⟨before, own, after, operand⟩ := link
  cases finished : done own with
  | true =>
    have apart : own.symbol ≠ connective.head := by cases own <;> cases connective <;> decide
    have passed := replaceSpacedWord_passed connective (' ' :: (connective.symbol ++ [' '])) .space
      own.symbol_isToken apart .space operand breaks
    simpa [partly, finished, translated] using passed
  | false =>
    by_cases same : own = connective
    · subst same
      have starts : own.word ≠ [] ∧ Stops isBlank own.word := by cases own <;> decide
      have found : afterSpacedWord? own.word (own.word ++ (after.text ++ (operand.text ++ rest))) =
          some (operand.text ++ rest) := afterSpacedWord?_append after.isGap (operand.stops rest)
      have replaced := replaceSpacedWord_gap (' ' :: (own.symbol ++ [' '])) before.isGap
        (Stops.append starts.1 starts.2) found
      rw [replaceSpacedWord_operand operand (own.afterSpacedWord?_atom operand.atom breaks)] at replaced
      simpa [partly, finished, text, translated] using replaced
    · -- With `not equals` out of the way the operator is one word, so it is passed over as a token.
      have single : own ≠ .notEquals := by
        rintro rfl
        rcases ready with rfl | ready
        · exact same rfl
        · rw [finished] at ready
          cases ready
      have isToken : own.word.IsToken := by cases own <;> first | decide | exact absurd rfl single
      have apart : own.word ≠ connective.head := by
        cases own <;> cases connective <;> first | decide | contradiction
      have passed := replaceSpacedWord_passed connective (' ' :: (connective.symbol ++ [' ']))
        before.isGap isToken apart after.isGap operand breaks
      simpa [partly, finished, text, same] using passed

end Link

theorem links_breaks {f : Link → Text} (breaks : ∀ link rest, Text.Breaks (f link ++ rest))
    (links : List Link) : Text.Breaks (links.flatMap f) := by
  cases links with
  | nil => exact .nil
  | cons link links => exact breaks link _

/-- One pass over a chain. -/
theorem replaceSpacedWord_links {done : Connective → Bool} {connective : Connective}
    (ready : connective = .notEquals ∨ done .notEquals = true) (first : Operand) (links : List Link) :
    replaceSpacedWord connective.word (' ' :: (connective.symbol ++ [' ']))
        (first.text ++ links.flatMap (Link.partly done)) =
      first.text ++ links.flatMap (Link.partly fun other => done other || other = connective) := by
  rw [replaceSpacedWord_operand first (connective.afterSpacedWord?_atom first.atom
    (links_breaks Link.partly_breaks links))]
  congr 1
  induction links with
  | nil => rw [List.flatMap_nil, List.flatMap_nil, replaceSpacedWord]
  | cons link links ih =>
    rw [List.flatMap_cons, List.flatMap_cons,
      link.replaceSpacedWord_partly ready (links_breaks Link.partly_breaks links), ih]

theorem toScript_eq (expression : Text) : toScript expression =
    replaceSpacedWord "not" " !" ([.notEquals, .equals, .and, .or].foldl
      (fun text connective => replaceSpacedWord (Connective.word connective)
        (' ' :: (connective.symbol ++ [' '])) text) expression) := by
  rfl

/-- The four operators between operands are replaced one after the other. -/
theorem connectives_replaced (chain : Chain) :
    [.notEquals, .equals, .and, .or].foldl
      (fun text connective => replaceSpacedWord (Connective.word connective)
        (' ' :: (connective.symbol ++ [' '])) text) chain.text =
      chain.first.text ++ chain.links.flatMap (Link.translated Operand.text) := by
  have fresh : Link.partly (fun _ => false) = Link.text := rfl
  simp only [List.foldl_cons, List.foldl_nil, Chain.text, ← fresh]
  rw [replaceSpacedWord_links (.inl rfl), replaceSpacedWord_links (.inr rfl),
    replaceSpacedWord_links (.inr rfl), replaceSpacedWord_links (.inr rfl)]
  congr 2
  funext link
  rw [Link.partly, if_pos (by cases link.connective <;> rfl)]

theorem translated_breaks {operand : Operand → Text} (link : Link) (rest : Text) :
    Text.Breaks (link.translated operand ++ rest) :=
  Text.IsGap.space.breaks _

/-- A `not` after a gap is joined with its operand. -/
theorem replaceSpacedWord_signed (operand : Operand) {rest : Text} (breaks : Text.Breaks rest) :
    replaceSpacedWord "not" " !" (' ' :: (operand.text ++ rest)) =
      ' ' :: (operand.sign ++ (operand.atom.text ++ replaceSpacedWord "not" " !" rest)) := by
  obtain ⟨negation, atom⟩ := operand
  rw [← List.singleton_append]
  cases negation with
  | none =>
    have missing := replaceSpacedWord_gap_missing " !" .space (atom.isToken.stops rest)
      (afterSpacedWord?_not atom breaks)
    rw [replaceSpacedWord_solid atom.isToken.solid] at missing
    exact missing
  | some gap =>
    have found := replaceSpacedWord_gap " !" .space (isToken_not.stops _)
      (afterSpacedWord?_append gap.isGap (atom.isToken.stops rest))
    rw [replaceSpacedWord_solid atom.isToken.solid] at found
    simpa [Operand.text, Operand.sign] using found

/-- The last pass, for `not`. -/
theorem replaceSpacedWord_not (first : Operand) (links : List Link) :
    replaceSpacedWord "not" " !" (first.text ++ links.flatMap (Link.translated Operand.text)) =
      first.text ++ links.flatMap
        (Link.translated fun operand => operand.sign ++ operand.atom.text) := by
  rw [replaceSpacedWord_operand first (afterSpacedWord?_not first.atom
    (links_breaks translated_breaks links))]
  congr 1
  induction links with
  | nil => rw [List.flatMap_nil, List.flatMap_nil, replaceSpacedWord]
  | cons link links ih =>
    have apart : link.connective.symbol ≠ "not" := by cases link.connective <;> decide
    have isSymbol := link.connective.symbol_isToken
    have breaks : Text.Breaks (links.flatMap (Link.translated Operand.text)) :=
      links_breaks translated_breaks links
    have spaced := Text.IsGap.space.breaks
      (link.operand.text ++ links.flatMap (Link.translated Operand.text))
    have passed := replaceSpacedWord_gap_missing " !" .space (isSymbol.stops _)
      (afterSpacedWord?_of_ne isSymbol spaced (by decide) apart)
    rw [replaceSpacedWord_solid isSymbol.solid, List.singleton_append, List.singleton_append,
      replaceSpacedWord_signed link.operand breaks, ih] at passed
    simpa [Link.translated] using passed

theorem toScript_chain (chain : Chain) : toScript chain.text = chain.script := by
  rw [toScript_eq, connectives_replaced, replaceSpacedWord_not]
  rfl

theorem replaceLeadingNot_operand (operand : Operand) {rest : Text} (breaks : Text.Breaks rest) :
    replaceLeadingNot (operand.text ++ rest) = operand.sign ++ (operand.atom.text ++ rest) := by
  obtain ⟨negation, atom⟩ := operand
  cases negation with
  | none =>
    have missing := afterSpacedWord?_not atom breaks
    simp only [replaceLeadingNot, Operand.text, missing]
    rfl
  | some gap =>
    have found : afterSpacedWord? "not" ("not" ++ (gap.text ++ (atom.text ++ rest))) =
        some (atom.text ++ rest) := afterSpacedWord?_append gap.isGap (atom.isToken.stops rest)
    simp only [replaceLeadingNot, Operand.text, List.append_assoc, found]
    rfl

theorem mapWords_atom (atom : Atom) {rest : Text} (stops : Stops isWord rest) :
    mapWords spelling (atom.text ++ rest) = atom.spelled ++ mapWords spelling rest := by
  have pieces : ∀ piece ∈ Text.splitOn '.' atom.text, ∀ c ∈ piece, isWord c = true := by
    intro piece member c inside
    have inText : c ∈ atom.text := Text.mem_of_mem_splitOn member inside
    refine (atom.of_mem inText).resolve_right ?_
    rintro rfl
    exact Text.not_mem_of_mem_splitOn member inside
  have dotted := mapWords_dotted (f := spelling) (by decide) pieces stops
  rwa [Text.join_splitOn] at dotted

theorem Operand.sign_marks (operand : Operand) : ∀ c ∈ operand.sign, isWord c = false := by
  have mark : isWord '!' = false := by decide +kernel
  unfold Operand.sign
  split <;> simp [mark]

theorem Connective.symbol_marks (connective : Connective) :
    ∀ c ∈ connective.symbol, isWord c = false ∧ c ≠ '(' := by
  have marks : (connective.symbol.all fun c => !isWord c && c != '(') = true := by
    cases connective <;> decide +kernel
  intro c member
  simpa using List.all_eq_true.mp marks c member

theorem links_stop {operand : Operand → Text} (links : List Link) :
    Stops isWord (links.flatMap (Link.translated operand)) := by
  have space : isWord ' ' = false := by decide +kernel
  cases links with
  | nil => simp
  | cons link links => exact Stops.cons_iff.mpr space

/-- The words of a translated link are those of its atom. -/
theorem mapWords_links (links : List Link) :
    mapWords spelling (links.flatMap
        (Link.translated fun operand => operand.sign ++ operand.atom.text)) =
      links.flatMap (Link.translated fun operand => operand.sign ++ operand.atom.spelled) := by
  have space : isWord ' ' = false := by decide +kernel
  induction links with
  | nil => rw [List.flatMap_nil, List.flatMap_nil, mapWords]
  | cons link links ih =>
    have marks : ∀ c ∈ ' ' :: (link.connective.symbol ++ ' ' :: link.operand.sign),
        isWord c = false := by
      simp only [List.forall_mem_cons, List.forall_mem_append]
      exact ⟨space, fun c member => (link.connective.symbol_marks c member).1, space,
        link.operand.sign_marks⟩
    have split (operand : Operand → Text) (rest : Text) :
        link.translated (fun other => other.sign ++ operand other) ++ rest =
          ' ' :: (link.connective.symbol ++ ' ' :: link.operand.sign) ++
            (operand link.operand ++ rest) := by simp [Link.translated]
    rw [List.flatMap_cons, List.flatMap_cons, split (fun other => other.atom.text),
      split (fun other => other.atom.spelled), mapWords_gap marks,
      mapWords_atom link.operand.atom (links_stop links), ih]

/-- There is no parenthesis in a chain, so none before a `not`. -/
theorem replaceParenthesizedNot_chain (first : Operand) (links : List Link) :
    let text := first.sign ++ (first.atom.text ++ links.flatMap
      (Link.translated fun operand => operand.sign ++ operand.atom.text))
    replaceParenthesizedNot text = text := by
  have opening : isWord '(' = false := by decide +kernel
  have atoms (operand : Operand) : '(' ∉ operand.sign ++ operand.atom.text := by
    rw [List.mem_append, not_or]
    refine ⟨?_, fun member => ?_⟩
    · unfold Operand.sign
      split <;> decide
    · rcases operand.atom.of_mem member with word | dot
      · rw [opening] at word
        cases word
      · exact absurd dot (by decide)
  suffices free : '(' ∉ first.sign ++ (first.atom.text ++ links.flatMap
      (Link.translated fun operand => operand.sign ++ operand.atom.text)) by
    have passed := replaceParenthesizedNot_append free []
    simpa [replaceParenthesizedNot] using passed
  rw [← List.append_assoc, List.mem_append, not_or, List.mem_flatMap]
  refine ⟨atoms first, ?_⟩
  rintro ⟨link, _, inLink⟩
  simp only [Link.translated, List.mem_cons, List.mem_append] at inLink
  rcases inLink with space | symbol | space | operand
  · exact absurd space (by decide)
  · exact (link.connective.symbol_marks _ symbol).2 rfl
  · exact absurd space (by decide)
  · exact atoms link.operand (List.mem_append.mpr operand)

theorem toCondition_chain (chain : Chain) : toCondition chain.text = chain.condition := by
  have breaks : Text.Breaks (chain.links.flatMap
      (Link.translated fun operand => operand.sign ++ operand.atom.text)) :=
    links_breaks translated_breaks chain.links
  calc toCondition chain.text
      = mapWords spelling (replaceParenthesizedNot (replaceLeadingNot chain.script)) := by
        rw [toCondition_eq, toScript_chain]
    _ = mapWords spelling (chain.first.sign ++ (chain.first.atom.text ++ chain.links.flatMap
          (Link.translated fun operand => operand.sign ++ operand.atom.text))) := by
        rw [Chain.script, replaceLeadingNot_operand chain.first breaks,
          replaceParenthesizedNot_chain chain.first chain.links]
    _ = chain.condition := by
        rw [mapWords_gap chain.first.sign_marks, mapWords_atom _ (links_stop chain.links),
          mapWords_links, Chain.condition, List.append_assoc]

/-- A chain is translated token by token. Each operator becomes its symbol between single spaces and
each `not` a mark on its atom, but for the script a `not` at the start, and in a directive the words of
atoms get their spelling. -/
theorem chain_translated (chain : Chain) :
    toScript chain.text = chain.script ∧ toCondition chain.text = chain.condition :=
  ⟨toScript_chain chain, toCondition_chain chain⟩

example :
    let opened : Atom := ⟨"is_open", by decide, by decide +kernel, by decide⟩
    let owner : Atom := ⟨"post.user_id", by decide, by decide +kernel, by decide⟩
    let chain : Chain := ⟨⟨some ⟨"  ", by decide⟩, opened⟩,
      [⟨⟨"\t", by decide⟩, .notEquals, ⟨" ", by decide⟩, ⟨none, owner⟩⟩]⟩
    chain.text = "not  is_open\tnot equals post.user_id" ∧
      chain.script = "not  is_open !== post.user_id" ∧
      chain.condition = "!isOpen !== post.userId" := by
  decide

end Vue

end AppDescription
