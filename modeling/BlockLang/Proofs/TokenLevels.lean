import BlockLang.Proofs.Nesting
import BlockLang.Proofs.Program

/-!
# The levels of a program's tokens

The level that each token of a program needs can be read off the tokens alone, from the braces and
parentheses that are open before it. These are the levels of the derivation, so a program is read
exactly under the limits that none of them exceeds, and under any other limit its first token whose
level exceeds the limit is reported.
-/

namespace BlockLang

/-! ## Levels of tokens -/

/-- What the tokens before a place say about it: the last of them, the number of braces that are
open, and of each parenthesis that is open whether it groups. -/
structure Place where
  previous : Option Token := none
  braces : Nat := 0
  parens : List Bool := []
  deriving DecidableEq, Repr

namespace Place

/-- True where a parenthesis groups, which is not so directly behind a fixed word. -/
def groups (place : Place) : Bool :=
  place.previous != some Keyword.ifWord.text && place.previous != some Keyword.whileWord.text

/-- True where a statement begins unless the block is closed. -/
def begins (place : Place) : Bool :=
  place.previous == some "\x7b" || place.previous == some ";"

/-- The level of a token: a brace and a grouping parenthesis need one level more than is open
around them, and the first token of a statement needs that of the statement. -/
def level (place : Place) (token : Token) : Nat :=
  max (if place.begins && token != "\x7d" then 2 * place.braces else 0) <|
    if token = "\x7b" then 2 * place.braces + 1
    else if token = "(" ∧ place.groups = true then 2 * place.braces + place.parens.count true + 1
    else 0

/-- The place behind a token. -/
def after (place : Place) (token : Token) : Place where
  previous := some token
  braces :=
    if token = "\x7b" then place.braces + 1
    else if token = "\x7d" then place.braces - 1
    else place.braces
  parens :=
    if token = "(" then place.groups :: place.parens
    else if token = ")" then place.parens.tail
    else place.parens

/-- The levels of the tokens from a place on. -/
def levels : Place → List Token → List Nat
  | _, [] => []
  | place, token :: tokens => place.level token :: (place.after token).levels tokens

theorem levels_append (place : Place) (tokens tokens' : List Token) :
    place.levels (tokens ++ tokens') =
      place.levels tokens ++ (tokens.foldl after place).levels tokens' := by
  induction tokens generalizing place with
  | nil => rfl
  | cons token tokens ih => simp only [List.cons_append, levels, List.foldl_cons, ih]

end Place

/-- The levels that the tokens of an input need. -/
def tokenLevels (tokens : List Token) : List Nat := Place.levels {} tokens

namespace Grammar

variable {keyword : Token} {place : Place} {level : Nat}

/-! ## Scanning -/

/-- The levels of some tokens from a place on, and what may be said of the last of them; braces and
parentheses are as before. -/
def Scans (place : Place) (tokens : List Token) (levels : List Nat)
    (closes : Option Token → Prop) : Prop :=
  place.levels tokens = levels ∧
    ∃ previous, closes previous ∧ tokens.foldl Place.after place = { place with previous }

/-- Behind some token neither a statement begins nor the parenthesis of a condition. -/
def Inner (previous : Option Token) : Prop :=
  previous ∉ ["\x7b", ";", Keyword.ifWord.text, Keyword.whileWord.text].map some

/-- Behind some token a statement begins or its block is closed. -/
def Separated (previous : Option Token) : Prop := previous ∈ ["\x7b", ";"].map some

/-- A token that opens and closes nothing. -/
def Plain (token : Token) : Prop := token ∉ ["\x7b", "\x7d", "(", ")"]

instance : DecidablePred Inner := fun _ => inferInstanceAs (Decidable (_ ∉ _))

instance : DecidablePred Separated := fun _ => inferInstanceAs (Decidable (_ ∈ _))

instance : DecidablePred Plain := fun _ => inferInstanceAs (Decidable (_ ∉ _))

theorem inner_open : Inner (some "(") := by decide

theorem separated_brace : Separated (some "\x7b") := by decide

theorem separated_separator : Separated (some ";") := by decide

section Scans

variable {tokens tokens' : List Token} {levels levels' : List Nat} {token : Token}
  {closes closes' : Option Token → Prop}

theorem Inner.begins (inner : Inner place.previous) : place.begins = false := by
  simp_all [Inner, Place.begins]

theorem Inner.groups (inner : Inner place.previous) : place.groups = true := by
  simp_all [Inner, Place.groups]

theorem Separated.begins (separated : Separated place.previous) : place.begins = true := by
  simpa [Separated, Place.begins] using separated

theorem Scans.mono (scans : Scans place tokens levels closes)
    (of : ∀ previous, closes previous → closes' previous) : Scans place tokens levels closes' := by
  obtain ⟨same, previous, closed, reached⟩ := scans
  exact ⟨same, previous, of previous closed, reached⟩

theorem Scans.append (first : Scans place tokens levels closes)
    (second : ∀ previous, closes previous →
      Scans { place with previous } tokens' levels' closes') :
    Scans place (tokens ++ tokens') (levels ++ levels') closes' := by
  obtain ⟨rfl, previous, closed, reached⟩ := first
  obtain ⟨rfl, previous', closed', reached'⟩ := second previous closed
  refine ⟨?_, previous', closed', ?_⟩
  · rw [Place.levels_append, reached]
  · rw [List.foldl_append, reached, reached']

/-- Behind a plain token everything is as before. -/
theorem scans_plain (plain : Plain token) :
    Scans place [token] [if place.begins then 2 * place.braces else 0] (· = some token) := by
  simp only [Plain, List.mem_cons, not_or] at plain
  refine ⟨?_, some token, rfl, ?_⟩
  · simp [Place.levels, Place.level, plain]
  · simp [Place.after, plain]

/-- Inside a statement a plain token needs no level. -/
theorem scans_inner (plain : Plain token) (inner : Inner place.previous) :
    Scans place [token] [0] (· = some token) := by
  have scans : Scans place [token] _ _ := scans_plain plain
  rwa [inner.begins, if_neg (by decide)] at scans

/-- The first token of a statement needs the level of the statement. -/
theorem scans_first (plain : Plain token) (separated : Separated place.previous) :
    Scans place [token] [2 * place.braces] (· = some token) := by
  have scans : Scans place [token] _ _ := scans_plain plain
  rwa [separated.begins, if_pos rfl] at scans

/-- What stands between parentheses is scanned with one of them open. -/
theorem scans_parens
    (inside : Scans { place with previous := some "(", parens := place.groups :: place.parens }
      tokens levels Inner) :
    Scans place ("(" :: tokens ++ [")"]) (place.level "(" :: levels ++ [0]) Inner := by
  obtain ⟨rfl, previous, inner, reached⟩ := inside
  have opened : place.after "(" =
      { place with previous := some "(", parens := place.groups :: place.parens } := by
    simp [Place.after]
  have closed : Place.level ⟨previous, place.braces, place.groups :: place.parens⟩ ")" = 0 := by
    have within : Place.begins ⟨previous, place.braces, place.groups :: place.parens⟩ = false :=
      Inner.begins inner
    simp [Place.level, within]
  refine ⟨?_, some ")", by decide, ?_⟩
  · rw [List.cons_append, Place.levels, Place.levels_append, opened, reached, Place.levels, closed]
    rfl
  · rw [List.cons_append, List.foldl_cons, List.foldl_append, opened, reached]
    simp [Place.after]

/-- A grouping parenthesis needs one level more than is open around it. -/
theorem scans_group (inner : Inner place.previous)
    (inside : Scans { place with previous := some "(", parens := true :: place.parens }
      tokens levels Inner) :
    Scans place ("(" :: tokens ++ [")"])
      ((2 * place.braces + place.parens.count true + 1) :: levels ++ [0]) Inner := by
  rw [← inner.groups] at inside
  have scans := scans_parens inside
  have opened : place.level "(" = 2 * place.braces + place.parens.count true + 1 := by
    simp [Place.level, inner.begins, inner.groups]
  rwa [opened] at scans

/-- What stands between braces is scanned with one of them open. -/
theorem scans_braces
    (inside : Scans { place with previous := some "\x7b", braces := place.braces + 1 }
      tokens levels Separated) :
    Scans place ("\x7b" :: tokens ++ ["\x7d"]) ((2 * place.braces + 1) :: levels ++ [0]) Inner := by
  obtain ⟨rfl, previous, -, reached⟩ := inside
  have opened : place.after "\x7b" =
      { place with previous := some "\x7b", braces := place.braces + 1 } := by
    simp [Place.after]
  have level : place.level "\x7b" = 2 * place.braces + 1 := by
    simp only [Place.level]
    split <;> simp
  refine ⟨?_, some "\x7d", by decide, ?_⟩
  · rw [List.cons_append, Place.levels, Place.levels_append, opened, reached, level]
    simp [Place.levels, Place.level]
  · rw [List.cons_append, List.foldl_cons, List.foldl_append, opened, reached]
    simp [Place.after]

/-- A token of a phrase or of a name opens and closes nothing and begins nothing. -/
def Ordinary (token : Token) : Prop := Plain token ∧ Inner (some token)

theorem Ordinary.of_shape {shape : Token → Bool} (holds : shape token = true)
    (fails : ∀ other ∈ ["\x7b", "\x7d", "(", ")", ";"], shape other = false)
    (noWord : ∀ word : Keyword, token ≠ word.text) : Ordinary token := by
  have other : ∀ other ∈ ["\x7b", "\x7d", "(", ")", ";"], token ≠ other :=
    fun other member => Token.ne_of_shape holds (fails other member)
  simp only [List.forall_mem_cons] at other
  simp [Ordinary, Plain, Inner, other, noWord]

theorem Ordinary.of_isName {keyword : Token} (named : token.isName keyword = true) :
    Ordinary token :=
  .of_shape (Token.isIdentifier_of_isName named) (by decide) (Token.ne_of_isName named).1

theorem ordinary_text (operator : Operator) : Ordinary operator.text := by
  cases operator <;> exact ⟨by decide, by decide⟩

theorem ordinary_comma : Ordinary "," := ⟨by decide, by decide⟩

theorem ordinary_assign : Ordinary Token.assign := ⟨by decide, by decide⟩

theorem ordinary_else : Ordinary Keyword.elseWord.text := ⟨by decide, by decide⟩

theorem Scans.cons (plain : Plain token) (inner : Inner place.previous)
    (rest : Scans { place with previous := some token } tokens levels closes) :
    Scans place (token :: tokens) (0 :: levels) closes :=
  (scans_inner plain inner).append fun _ same => same ▸ rest

theorem scans_ordinary (ordinary : Ordinary token) (inner : Inner place.previous) :
    Scans place [token] [0] Inner :=
  (scans_inner ordinary.1 inner).mono fun _ same => same ▸ ordinary.2

/-- Names with a comma before each need no level. -/
theorem scans_names {keyword : Token} {others : List Token}
    (named : ∀ name ∈ others, name.isName keyword = true) (inner : Inner place.previous) :
    Scans place (others.flatMap fun name => [",", name]) (others.flatMap fun _ => [0, 0])
      Inner := by
  induction others generalizing place with
  | nil => exact ⟨rfl, place.previous, inner, rfl⟩
  | cons name others ih =>
      have ordinary := Ordinary.of_isName (named name List.mem_cons_self)
      exact .cons ordinary_comma.1 inner <| .cons ordinary.1 ordinary_comma.2 <|
        ih (fun name member => named name (List.mem_cons_of_mem _ member)) ordinary.2

end Scans

/-! ## The levels of a derivation -/

/-- A symbol begins at a place around which some levels are open. -/
def Symbol.BeginsAt (level : Nat) (place : Place) : Symbol → Prop
  | .phrase _ =>
      Inner place.previous ∧ level = 2 * place.braces + place.parens.count true
  | .statement | .statements =>
      Separated place.previous ∧ level + 1 = 2 * place.braces ∧ place.parens = []
  | .block => level = 2 * place.braces ∧ place.parens = []

/-- A symbol ends behind some token. -/
def Symbol.EndsBehind : Symbol → Option Token → Prop
  | .phrase _ | .statement | .block => Inner
  | .statements => Separated

/-- The parenthesis behind a fixed word needs no level and takes none. -/
theorem scans_headed {word : Keyword} {tokens : List Token} {levels : List Nat}
    (conditional : word = .ifWord ∨ word = .whileWord)
    (beginning : Symbol.statement.BeginsAt level place)
    (inside : ∀ {place}, Symbol.condition.BeginsAt (level + 1) place →
      Scans place tokens levels Inner) :
    Scans place (word.text :: "(" :: tokens ++ [")"]) ((level + 1) :: 0 :: levels ++ [0])
      Inner := by
  obtain ⟨separated, around, none⟩ := beginning
  have plain : Plain word.text := by rcases conditional with rfl | rfl <;> decide
  have free : Place.groups { place with previous := some word.text } = false := by
    rcases conditional with rfl | rfl <;> rfl
  have within : Place.begins { place with previous := some word.text } = false := by
    rcases conditional with rfl | rfl <;> rfl
  have opened : Place.level { place with previous := some word.text } "(" = 0 := by
    simp [Place.level, within, free]
  have scans : Scans { place with previous := some word.text } _ _ _ :=
    scans_parens (inside ⟨inner_open, by simp only [free]; simpa [none] using around⟩)
  rw [opened] at scans
  rw [around]
  exact (scans_first plain separated).append fun _ same => same ▸ scans

namespace Derivation

/-- The tokens of a derivation have the levels of the derivation. -/
theorem scans (fit : keyword.Fit) {symbol : Symbol} (derivation : Derivation keyword symbol)
    (beginning : symbol.BeginsAt level place) :
    Scans place derivation.tokens (derivation.tokenLevels level) symbol.EndsBehind := by
  -- A statement stands between the level of its block and that of its own blocks, so inside braces
  -- there is one level less around it than the braces count.
  induction derivation generalizing place level with
  | integer token digits =>
      exact scans_ordinary (.of_shape digits (by decide) fun word =>
        Token.ne_of_shape digits (by cases word <;> decide)) beginning.1
  | float token digits =>
      exact scans_ordinary (.of_shape digits (by decide) fun word =>
        Token.ne_of_shape digits (by cases word <;> decide)) beginning.1
  | reference token named => exact scans_ordinary (.of_isName named) beginning.1
  | parenthesized inner ih =>
      obtain ⟨within, rfl⟩ := beginning
      exact scans_group within (ih ⟨inner_open, by simp [Nat.add_assoc]⟩)
  | group inner ih =>
      obtain ⟨within, rfl⟩ := beginning
      exact scans_group within (ih ⟨inner_open, by simp [Nat.add_assoc]⟩)
  | comparison left operator relational right ihLeft ihRight =>
      exact (ihLeft beginning).append fun _ within =>
        .cons (ordinary_text operator).1 within (ihRight ⟨(ordinary_text operator).2, beginning.2⟩)
  | single level operand ih => exact ih beginning
  | joined level left operator admitted right ihLeft ihRight =>
      exact (ihLeft beginning).append fun _ within =>
        .cons (ordinary_text operator).1 within (ihRight ⟨(ordinary_text operator).2, beginning.2⟩)
  | ifThen condition body ihCondition ihBody =>
      have whole := (scans_headed (.inl rfl) beginning ihCondition).append fun _ _ =>
        ihBody beginning.2
      simpa [tokens, tokenLevels, Symbol.EndsBehind] using whole
  | ifThenElse condition body alternative ihCondition ihBody ihAlternative =>
      have first := (scans_headed (.inl rfl) beginning ihCondition).append fun _ _ =>
        ihBody beginning.2
      have whole := first.append fun _ within =>
        .cons ordinary_else.1 within (ihAlternative beginning.2)
      simpa [tokens, tokenLevels, Symbol.EndsBehind] using whole
  | loop condition body ihCondition ihBody =>
      have whole := (scans_headed (.inr rfl) beginning ihCondition).append fun _ _ =>
        ihBody beginning.2
      simpa [tokens, tokenLevels, Symbol.EndsBehind] using whole
  | nested body ih => exact ih beginning.2
  | declaration first others named =>
      obtain ⟨separated, level, -⟩ := beginning
      obtain ⟨namedFirst, namedOthers⟩ := List.forall_mem_cons.mp named
      have word : Ordinary keyword := .of_shape fit.1 (by decide) fit.2
      have name : Ordinary first := .of_isName namedFirst
      rw [tokenLevels, level]
      exact (scans_first word.1 separated).append fun _ same =>
        .cons name.1 (same ▸ word.2) (scans_names namedOthers name.2)
  | assignment target named value ih =>
      obtain ⟨separated, level, none⟩ := beginning
      have name : Ordinary target := .of_isName named
      rw [tokenLevels, level]
      exact (scans_first name.1 separated).append fun _ same =>
        .cons ordinary_assign.1 (same ▸ name.2) (ih ⟨ordinary_assign.2, by simp [none]⟩)
  | empty => exact ⟨rfl, place.previous, beginning.1, rfl⟩
  | cons first others ihFirst ihOthers =>
      have separator : Plain ";" := by decide
      exact (ihFirst beginning).append fun _ within =>
        .cons separator within (ihOthers ⟨separated_separator, beginning.2⟩)
  | braces statements ih =>
      obtain ⟨rfl, none⟩ := beginning
      exact scans_braces (ih ⟨separated_brace, rfl, none⟩)

end Derivation

/-- The tokens of a program have the levels of its derivation. -/
theorem tokenLevels_tokens (fit : keyword.Fit) (derivation : Derivation keyword .block) :
    BlockLang.tokenLevels derivation.tokens = derivation.tokenLevels 0 :=
  (derivation.scans fit ⟨rfl, rfl⟩).1

/-! ## Programs that nest too deep -/

section Programs

variable {settings : Settings} {levels count : Nat} {tokens : List Token}

theorem overruns_program (body : Overruns settings (block settings levels) tokens count) :
    Overruns settings (program settings levels) tokens count := by
  intro start next continues
  have records : Handles (record (.begun start.cursor.remaining)) (fun _ => True) [] () :=
    fun _ _ _ _ => .of_leave (record_decides _) rfl
  have whole : Overruns settings
      (record (.begun start.cursor.remaining) >>= fun _ => block settings levels >>=
        fun statements => requireEnd .programEnd >>= fun _ => pure (Tree.block statements))
      tokens count :=
    records.overruns_skip (body.head _)
  exact whole start next continues

/-- A program whose rule nests too deep at one of its tokens is refused there. -/
theorem parseProgram_of_overruns
    (body : Overruns settings (block settings settings.maxDepth) tokens count) :
    parseProgram settings tokens =
      .error ⟨.nestingTooDeep, .nestingExceeds settings.maxDepth, count, tokens[count]?⟩ := by
  have continues : (opening settings tokens).cursor.Continues tokens none := ⟨[], by simp, rfl⟩
  obtain ⟨place, finish, run, same, position⟩ := overruns_program body _ none continues
  rw [position_opening, Nat.zero_add] at position
  refine parseProgram_eq_error_iff.mpr ⟨finish, run.trans ?_⟩
  rw [errorAt, Cursor.peek, position, same]
  simp [opening, Session.ofTokens, Session.start, Cursor.ofList, Cursor.ofArray]

end Programs

end Grammar

/-- For a keyword that is fit for use, the levels of the tokens decide under which limits an input
is read that is read under some limit: where no level exceeds the limit it is the same program, and
otherwise it nests too deep at the first token whose level exceeds the limit. -/
theorem parseProgram_eq_of_tokenLevels {settings : Settings} (valid : settings.fault? = none)
    {tokens : List Token} {tree : Tree} (read : parseProgram settings tokens = .ok tree)
    (maxDepth : Nat) :
    (tokenLevels tokens).length = tokens.length ∧
    parseProgram { settings with maxDepth } tokens =
      match (tokenLevels tokens).findIdx? (maxDepth < ·) with
      | none => .ok tree
      | some index =>
          .error ⟨.nestingTooDeep, .nestingExceeds maxDepth, index, tokens[index]?⟩ := by
  have fit := settings.fault?_eq_none_iff_fit.mp valid
  obtain ⟨derivation, rfl, rfl, -⟩ := Grammar.exists_derivation_of_parseProgram read
  rw [Grammar.tokenLevels_tokens fit]
  refine ⟨derivation.length_tokenLevels 0, ?_⟩
  change _ = match Grammar.firstBeyond maxDepth (derivation.tokenLevels 0) with
    | none => _
    | some index => _
  cases found : Grammar.firstBeyond maxDepth (derivation.tokenLevels 0) with
  | none =>
      have fits := (derivation.forall_tokenLevels_le_iff (Nat.zero_le maxDepth)).mp
        (Grammar.firstBeyond_eq_none_iff.mp found)
      exact Grammar.parseProgram_of_derivation fit derivation (by omega)
  | some index =>
      have same : ({ settings with maxDepth } : Settings).keyword = settings.keyword := rfl
      have body : Grammar.Overruns { settings with maxDepth }
          (Grammar.block { settings with maxDepth } maxDepth) derivation.tokens index :=
        derivation.overruns fit same (Nat.zero_le _) found
      exact Grammar.parseProgram_of_overruns body

theorem parseProgram_eq_of_tokenLevels_group :
    ({} : Settings).fault? = none ∧
      parseProgram {} ["\x7b", "if", "(", "(", "a", "<", "(", "1", ")", ")", ")", "\x7b", "\x7d",
          ";", "\x7d"] = .ok (.block [.ifThen (.binary .less (.var "a") (.int 1)) []]) ∧
      parseProgram { maxDepth := 3 } ["\x7b", "if", "(", "(", "a", "<", "(", "1", ")", ")", ")",
          "\x7b", "\x7d", ";", "\x7d"] =
        .error ⟨.nestingTooDeep, .nestingExceeds 3, 6, some "("⟩ := by
  have valid : ({} : Settings).fault? = none := by decide
  have read : parseProgram {} ["\x7b", "if", "(", "(", "a", "<", "(", "1", ")", ")", ")", "\x7b",
      "\x7d", ";", "\x7d"] = .ok (.block [.ifThen (.binary .less (.var "a") (.int 1)) []]) := rfl
  exact ⟨valid, read, (parseProgram_eq_of_tokenLevels valid read 3).2⟩

end BlockLang
