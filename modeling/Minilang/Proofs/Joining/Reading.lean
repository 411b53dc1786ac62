import Minilang.Proofs.Joining.Embeddings

namespace Minilang

namespace Grammar

variable {start stop : Parser}

theorem begins_of_word {cursor : Cursor} {word : String}
    (ahead : cursor.word? = some word) :
    ∃ c, cursor.rest.head? = some c ∧ c.isAlpha = true := by
  obtain ⟨c, rest, split, letter⟩ := Lexeme.isAlpha_of_word? ahead
  refine ⟨c, ?_, letter⟩
  rw [split]
  rfl

/-- A statement begins with an expression, with the word of its form or with
that of a type. -/
theorem begins_of_readsStatement {node : Node}
    (reads : ReadsClause (.statement node) start stop) :
    BeginsExpression start.cursor ∨ ∃ word, start.cursor.word? = some word ∧
      word ≠ "else" := by
  have ofForm {form : Form} {behind : Cursor}
      (found : Form.read? start.cursor = some (form, behind)) :
      ∃ word, start.cursor.word? = some word ∧ word ≠ "else" := by
    refine ⟨form.word, (Cursor.formRead?_eq_some.1 found).1, ?_⟩
    cases form <;> decide
  have ofType {type : DataType} {typed : Cursor}
      (found : start.cursor.type? = some (type, typed)) :
      ∃ word, start.cursor.word? = some word ∧ word ≠ "else" := by
    obtain ⟨entry, member, _, ahead, _⟩ := Cursor.type?_eq_some.1 found
    have other : ∀ entry ∈ DataType.words, entry.1 ≠ "else" := by decide
    exact ⟨entry.1, ahead, other entry member⟩
  cases reads with
  | expression chain => exact Or.inl (begins_of_reads chain)
  | print found | assignment found | loop found | conditional found
  | alternative found =>
      exact Or.inr (ofForm found)
  | uninitialized found | initialized found | function found =>
      exact Or.inr (ofType found)

end Grammar

namespace Embedding

open Grammar

theorem Separates.nil : Separates [] where
  noSymbol symbol isSymbol ahead :=
    ne_nil_of_isAhead (.symbol isSymbol ahead) rfl
  noElse ahead := by cases ahead

/-- A text separates if it begins with a letter, a digit or a quote, and not
with the word for an alternative. -/
theorem Separates.of_head {text : List Char} {c : Char}
    (head : text.head? = some c)
    (kind : c.isDigit = true ∨ c = '"' ∨ c.isAlpha = true)
    (noElse : Lexeme.word? text ≠ some "else") : Separates text where
  noSymbol symbol isSymbol ahead := by
    have foreign : ∀ symbol ∈ Token.symbols, symbol.toList.head?.any
        (fun d => d.isDigit = false ∧ d ≠ '"' ∧ d.isAlpha = false) = true := by
      decide +kernel
    obtain ⟨d, first, isForeign⟩ :=
      (Option.any_eq_true _ _).1 (foreign symbol isSymbol)
    obtain ⟨noDigit, noQuote, noLetter⟩ := of_decide_eq_true isForeign
    obtain ⟨rest, split⟩ := List.head?_eq_some_iff.1 first
    obtain ⟨more, whole⟩ := ahead
    rw [← whole, split] at head
    cases head
    rcases kind with digit | quote | letter
    · cases digit.symm.trans noDigit
    · exact noQuote quote
    · cases letter.symm.trans noLetter
  noElse := noElse

/-- The text of a program separates if it begins neither with a parenthesis nor
with an angle. -/
theorem separates_of_reads {items : List Node} {start stop : Parser}
    (reads : ReadsClause (.statements items) start stop)
    (ends : stop.cursor.rest = [])
    (noParenthesis : start.cursor.rest.head? ≠ some '(')
    (noAngle : start.cursor.rest.head? ≠ some '<') :
    Separates start.cursor.rest := by
  cases reads with
  | listEnd =>
      rw [ends]
      exact .nil
  | statements first =>
      rcases begins_of_readsStatement first with begins | ⟨word, ahead, other⟩
      · obtain ⟨c, head, kind⟩ := begins.head?
        refine .of_head head ?_ ?_
        · rcases kind with digit | quote | letter | paren | angle
          · exact Or.inl digit
          · exact Or.inr (Or.inl quote)
          · exact Or.inr (Or.inr letter)
          · exact absurd (paren ▸ head) noParenthesis
          · exact absurd (angle ▸ head) noAngle
        · intro ahead
          have free := begins.notReserved ahead
          exact absurd free (by decide +kernel)
      · obtain ⟨c, head, letter⟩ := begins_of_word ahead
        refine .of_head head (Or.inr (Or.inr letter)) ?_
        intro elseAhead
        exact other (Option.some.inj (ahead.symm.trans elseAhead))

end Embedding

/-- What is declared by the statements of one program is free for those of the
other. -/
theorem Node.not_declares_of_disjoint {nodes others : List Node} {node : Node}
    {name : String}
    (distinct : (nodes.filterMap declaredName?).Disjoint
      (others.filterMap declaredName?))
    (member : node ∈ nodes) (declares : node.declares name = true) :
    ∀ other ∈ others, other.declares name ≠ true := by
  intro other otherMember otherDeclares
  have declared : name ∈ nodes.filterMap declaredName? :=
    List.mem_filterMap.2 ⟨node, member, declares_iff.1 declares⟩
  apply distinct declared
  exact List.mem_filterMap.2 ⟨other, otherMember, declares_iff.1 otherDeclares⟩

/-- The statements of two programs are read from one text, the second below the
first. -/
theorem Grammar.readsClause_joined {text lines : List Char} {file : String}
    {items others : List Node} {stop otherStop : Parser} {around : Scope}
    (reads : ReadsClause (.statements items)
      ⟨Cursor.skipTrivia ⟨.start file, text⟩, .initial⟩ stop)
    (ends : stop.cursor.rest = [])
    (othersRead : ReadsClause (.statements others)
      ⟨Cursor.skipTrivia ⟨.start file, lines⟩, .initial⟩ otherStop)
    (othersEnd : otherStop.cursor.rest = [])
    (separates : Embedding.Separates (Layout.skipTrivia ('\n' :: lines)))
    (outermost : stop.scopes.all[0]? = some around)
    (path : stop.scopes.path = [0])
    (free : ∀ item ∈ others, ∀ name, item.declares name = true →
      name ∉ around.declared) :
    ∃ last, ReadsClause (.statements (items ++ others.map (Node.relocate
        (Position.below (text.count '\n' + 1))
          (ScopeId.behind stop.scopes.all.size))))
          ⟨Cursor.skipTrivia ⟨.start file, text ++ '\n' :: lines⟩,
            .initial⟩ last ∧
      last.cursor.rest = [] ∧
      Joined stop.scopes around otherStop.scopes last.scopes := by
  have stands : Scopes.initial.Stands 0 .empty := ⟨rfl, rfl⟩
  have begins : (Embedding.front lines ((Position.start file).after text)
      separates).Mirrors
      ⟨Cursor.skipTrivia ⟨.start file, text⟩, .initial⟩
      ⟨Cursor.skipTrivia ⟨.start file, text ++ '\n' :: lines⟩, .initial⟩ :=
    ⟨Embedding.continues_start, rfl⟩
  obtain ⟨middle, inside, between⟩ :=
    Embedding.readsClause reads begins stands fun _ _ _ _ _ => trivial
  -- The first list is left open: what is read from where it ends joins it.
  have goesOn : (Embedding.back (text.count '\n' + 1) stop.scopes
      around).Mirrors
      ⟨Cursor.skipTrivia ⟨.start file, lines⟩, .initial⟩ middle := by
    have sameScopes : stop.scopes = middle.scopes := between.scopes
    have joined := Joined.joined_initial outermost path
    exact ⟨Embedding.isBelow_start between.cursor ends, sameScopes ▸ joined⟩
  obtain ⟨last, othersInside, done⟩ :=
    Embedding.readsClause othersRead goesOn stands fun _ => free
  have lastEnds : last.cursor.rest = [] := done.cursor.rest.trans othersEnd
  have listEnd : atListEnd last.cursor = true := by
    rw [atListEnd, lastEnds]
  refine ⟨last, ?_, lastEnds, done.scopes⟩
  have whole := inside _ last (othersInside [] last (.listEnd listEnd))
  rw [List.append_nil] at whole
  rw [← Node.map_relocate_id items]
  exact whole

namespace Program

open Grammar

variable {source other file : String} {first second : Program}

theorem start_joined (source other file : String) :
    Cursor.start (source ++ "\n" ++ other) file =
      Cursor.skipTrivia ⟨.start file, source.toList.filter (· != '\r') ++
        '\n' :: other.toList.filter (· != '\r')⟩ := by
  simp [Cursor.start, String.toList_append]

/-- Two programs are read from one source, the second below the first, if they
do not declare the same name directly. -/
theorem parse_joined (parsed : parse source file = .ok first)
    (otherParsed : parse other file = .ok second)
    (distinct : (first.root.children.filterMap Node.declaredName?).Disjoint
      (second.root.children.filterMap Node.declaredName?))
    (noParenthesis : (Cursor.start other file).rest.head? ≠ some '(')
    (noAngle : (Cursor.start other file).rest.head? ≠ some '<') :
    ∃ around scopes,
      parse (source ++ "\n" ++ other) file =
          .ok ⟨.statements (first.root.children ++
            second.root.children.map
              (Node.relocate (Position.below (source.toList.count '\n' + 1))
                (ScopeId.behind first.scopes.all.size)))
          (Cursor.start (source ++ "\n" ++ other) file).position, scopes⟩ ∧
      Joined first.scopes around second.scopes scopes := by
  obtain ⟨around, enacts, outermost, path⟩ := enacts_of_parse parsed
  obtain ⟨items, stop, reads, ends, same⟩ := parse_ok.1 parsed
  obtain ⟨others, otherStop, othersRead, othersEnd, otherSame⟩ :=
    parse_ok.1 otherParsed
  subst same otherSame
  have lines : (source.toList.filter (· != '\r')).count '\n' =
      source.toList.count '\n' :=
    List.count_filter (by decide)
  have separates : Embedding.Separates
      (Layout.skipTrivia ('\n' :: other.toList.filter (· != '\r'))) := by
    rw [Layout.skipTrivia, Lexeme.triviaLength_cons_newline]
    exact Embedding.separates_of_reads othersRead othersEnd
      noParenthesis noAngle
  have free : ∀ item ∈ others, ∀ name, item.declares name = true →
      name ∉ around.declared := by
    intro item member name declares declared
    rcases (Scope.mem_declared_of_enactAll? enacts name).1 declared with
      inFirst | nothing
    · obtain ⟨node, inNodes, declaring⟩ := inFirst
      exact Node.not_declares_of_disjoint distinct inNodes declaring item
        member declares
    · cases nothing
  obtain ⟨last, whole, lastEnds, joined⟩ :=
    readsClause_joined reads ends othersRead othersEnd separates
      outermost path free
  rw [← start_joined, lines] at whole
  exact ⟨around, last.scopes,
    parse_ok.2 ⟨_, last, whole, lastEnds, rfl⟩, joined⟩

end Program

end Minilang
