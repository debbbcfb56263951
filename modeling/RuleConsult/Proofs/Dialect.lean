import RuleConsult.Proofs.RoundTrip

/-!
# Writing a base in other keywords

A base that was loaded with some keywords may be written with others. Its rules are read back in
whatever keywords they are written, and so are its bindings but for one mishap: a keyword that
begins bindings may consist of digits, and then a binding of the word `if` whose text begins with
clauses is taken for a rule. Nothing else can go wrong: the written form is loaded as an equal base
exactly if it holds no such binding.

* `exists_loadBase_of_isWritable`: a base whose bindings are plain in the keywords is read back;
* `isPlain_of_same`: if an equal base is read back, its bindings are plain;
* `loadBase_toText_other_iff`: the two together, for a base that was loaded;
* `exists_loadBase_of_words`: keywords that are no numbers serve for every base.
-/

namespace RuleConsult

open Text

variable {keywords other : Keywords}

/-! ## Plain bindings are read back -/

/-- A base is writable in every keywords in which its bindings are plain. -/
theorem Base.IsWritable.of_isPlain {base : Base} (h : base.IsWritable keywords)
    (hplain : ∀ binding ∈ base.allBindings, binding.IsPlain other) : base.IsWritable other :=
  { h with bindings := fun binding hbinding =>
      ⟨(h.bindings binding hbinding).1, hplain binding hbinding⟩ }

/-- A writable base is loaded from its written form, up to the lines. -/
theorem exists_loadBase_of_isWritable {base : Base} (h : base.IsWritable keywords) :
    ∃ again, loadBase keywords (base.toText keywords) = .ok again ∧ again.SameParts base := by
  obtain ⟨entries, hread, hplaces⟩ := readDocument_of_legible (Base.legible_writtenLines h)
    (Base.writtenLines_ne_nil h) (Base.toList_toText h)
  have hbody : entries.map Entry.body = (base.writtenLines keywords).map Line.body := by
    apply List.ext_getElem?
    intro k
    have := congrArg (fun places => (places[k]?).map fun place => place.2.2) hplaces
    simpa [Function.comp_def] using this
  obtain ⟨hconsistent, hsame⟩ := Base.declaredBase_of_writtenLines h hbody
  exact ⟨_, loadBase_eq_ok_iff.2 ⟨entries, hread, hconsistent, rfl⟩, hsame⟩

/-! ## Lines that were read -/

/-- What was read begins with what is read first, and goes on behind the white space after it. -/
theorem exists_cons_of_readEntries {text : List Char} {slots : List Slot}
    (h : readEntries keywords text = .ok slots) :
    ∃ body rest others, (readEntry keywords text).result = some (body, rest) ∧
      slots = ⟨text, body⟩ :: others ∧
      (skipGap rest = [] ∨ readEntries keywords (skipGap rest) = .ok others) := by
  refine readEntries_induction ?last ?more h
  case last =>
    intro text body rest hread hrest
    exact ⟨body, rest, [], hread, rfl, Or.inl hrest⟩
  case more =>
    intro text body rest others hread hothers _
    exact ⟨body, rest, others, hread, rfl, Or.inr hothers⟩

/-- Something stands on the line, and right at its beginning. -/
structure Line.IsFilled (line : Line) : Prop where
  stops : Stops isGap line.chars
  ne_nil : line.chars ≠ []

theorem Rule.isFilled_writtenLine {rule : Rule} (h : rule.IsWritable) :
    (rule.writtenLine keywords).IsFilled where
  stops := (chars_of_rule h).1
  ne_nil := chars_ne_nil (readEntry_rule h (stops_isWord_lineFeed []))

theorem Binding.isFilled_writtenLine {binding : Binding} (h : binding.IsWritable) :
    (binding.writtenLine keywords).IsFilled where
  stops := (chars_of_binding h).1
  ne_nil := by
    show (binding.toText keywords).toList ≠ []
    rw [Binding.toList_toText]
    simp

theorem isFilled_of_bindings {bindings : List Binding}
    (h : ∀ binding ∈ bindings, binding.IsWritable) :
    ∀ line ∈ bindings.map (Binding.writtenLine keywords), line.IsFilled := by
  intro line hline
  obtain ⟨binding, hbinding, rfl⟩ := List.mem_map.1 hline
  exact Binding.isFilled_writtenLine (h binding hbinding)

theorem isFilled_of_rules {rules : List Rule} {lines : List Line}
    (h : ∀ rule ∈ rules, rule.IsWritable) (hlines : ∀ line ∈ lines, line.IsFilled) :
    ∀ line ∈ rules.map (Rule.writtenLine keywords) ++ lines, line.IsFilled := by
  intro line hline
  rcases List.mem_append.1 hline with hline | hline
  · obtain ⟨rule, hrule, rfl⟩ := List.mem_map.1 hline
    exact Rule.isFilled_writtenLine (h rule hrule)
  · exact hlines line hline

/-- At the beginning of filled lines there is no white space. -/
theorem stops_isGap_joined {lines : List Line} (h : ∀ line ∈ lines, line.IsFilled) :
    Stops isGap (joined lines) := by
  cases lines with
  | nil => exact stops_nil isGap
  | cons line lines =>
    obtain ⟨hstops, hne⟩ := h line List.mem_cons_self
    rw [joined_cons]
    cases hchars : line.chars with
    | nil => exact absurd hchars hne
    | cons c chars => simpa [hchars] using hstops

theorem joined_ne_nil {lines : List Line} (h : lines ≠ []) : joined lines ≠ [] := by
  cases lines with
  | nil => exact absurd rfl h
  | cons line lines => simp [joined_cons]

/-- Behind a line that is read as its entry the further lines are read. -/
theorem exists_cons_of_line {line : Line} {lines : List Line} {slots : List Slot}
    (h : readEntries keywords (joined (line :: lines)) = .ok slots)
    (hline : (readEntry keywords (line.chars ++ '\n' :: joined lines)).result =
      some (line.body, '\n' :: joined lines))
    (hlines : ∀ other ∈ lines, other.IsFilled) (hne : lines ≠ []) :
    ∃ slot others, slots = slot :: others ∧ slot.body = line.body ∧
      readEntries keywords (joined lines) = .ok others := by
  obtain ⟨first, rest, others, hread, rfl, hothers⟩ := exists_cons_of_readEntries h
  rw [joined_cons, hline] at hread
  cases hread
  rw [skipGap_lineFeed, skipGap_eq_self (stops_isGap_joined hlines)] at hothers
  exact ⟨_, others, rfl, rfl, hothers.resolve_left (joined_ne_nil hne)⟩

/-- Rules are read in whatever keywords, and then the lines behind them are read. -/
theorem exists_append_of_rules {rules : List Rule} {lines : List Line} {slots : List Slot}
    (hrules : ∀ rule ∈ rules, rule.IsWritable) (hlines : ∀ line ∈ lines, line.IsFilled)
    (hne : lines ≠ [])
    (h : readEntries keywords (joined (rules.map (Rule.writtenLine keywords) ++ lines)) =
      .ok slots) :
    ∃ first others, slots = first ++ others ∧ first.map Slot.body = rules.map Rule.body ∧
      readEntries keywords (joined lines) = .ok others := by
  -- Rules can be read whatever follows them, so nothing about the lines behind is needed but that
  -- there is one.
  induction rules generalizing slots with
  | nil => exact ⟨[], slots, rfl, rfl, h⟩
  | cons rule rules ih =>
    have hothers : ∀ other ∈ rules, other.IsWritable := fun other hother =>
      hrules other (List.mem_cons_of_mem _ hother)
    obtain ⟨slot, more, rfl, hbody, hmore⟩ := exists_cons_of_line h
      (readEntry_rule (hrules rule List.mem_cons_self) (stops_isWord_lineFeed _))
      (isFilled_of_rules hothers hlines) (List.append_ne_nil_of_right_ne_nil _ hne)
    obtain ⟨first, others, rfl, hfirst, hread⟩ := ih hothers hmore
    refine ⟨slot :: first, others, rfl, ?_, hread⟩
    rw [List.map_cons, List.map_cons, hbody, hfirst]
    rfl

/-- If the lines of bindings are read and none of them as a rule, then the bindings are plain. -/
theorem isPlain_of_readEntries {bindings : List Binding} {slots : List Slot}
    (hbindings : ∀ binding ∈ bindings, binding.IsWritable)
    (h : readEntries keywords (joined (bindings.map (Binding.writtenLine keywords))) = .ok slots)
    (hslots : ∀ slot ∈ slots, ∃ kind category text, slot.body = .binding kind category text) :
    ∀ binding ∈ bindings, binding.IsPlain keywords := by
  -- From the front: where a binding is reached at the beginning of its line, it is plain, and being
  -- plain it ends with its line.
  induction bindings generalizing slots with
  | nil => simp
  | cons binding bindings ih =>
    have hothers : ∀ other ∈ bindings, other.IsWritable := fun other hother =>
      hbindings other (List.mem_cons_of_mem _ hother)
    -- A rule would be read in front of the other lines just as well, and it would come first.
    have hplain : binding.IsPlain keywords := by
      rw [Binding.IsPlain, Option.eq_none_iff_forall_not_mem]
      rintro ⟨body, rest⟩ hrule
      have hread : (readRule keywords ((binding.writtenLine keywords).chars ++
          '\n' :: joined (bindings.map (Binding.writtenLine keywords)))).result =
            some (extend _ (body, rest)) :=
        ((inert_joined_bindings bindings).readRule_append _).trans
          (congrArg (Option.map (extend _)) hrule)
      obtain ⟨first, behind, others, hfirst, rfl, -⟩ := exists_cons_of_readEntries h
      rw [List.map_cons, joined_cons, readEntry_eq_some_iff.2 (Or.inl hread)] at hfirst
      cases hfirst
      obtain ⟨kind, category, text, hbody⟩ := hslots _ List.mem_cons_self
      obtain ⟨rule, -, hrule, -⟩ := exists_rule hrule
      cases hrule.trans hbody
    intro other hother
    rcases List.mem_cons.1 hother with rfl | hother
    · exact hplain
    · obtain ⟨slot, more, rfl, -, hmore⟩ := exists_cons_of_line h
        (readEntry_binding (hbindings binding List.mem_cons_self) hplain
          (inert_joined_bindings bindings))
        (isFilled_of_bindings hothers) (List.ne_nil_of_mem (List.mem_map_of_mem hother))
      exact ih hothers hmore (fun slot hslot => hslots slot (List.mem_cons_of_mem _ hslot)) other
        hother

/-! ## An equal base has as many rules -/

/-- If consistent entries begin with those of some rules and declare no more rules than these, then
the others are bindings. -/
theorem exists_binding_of_length {rules : List Rule} {first others : List Entry}
    (hrules : ∀ rule ∈ rules, rule.IsWritable) (hconsistent : IsConsistent (first ++ others))
    (hbody : first.map Entry.body = rules.map Rule.body)
    (hlength : (declaredBase (first ++ others)).rules.length = rules.length) :
    ∀ entry ∈ others, ∃ kind category text, entry.body = .binding kind category text := by
  obtain ⟨-, hdeclared, -⟩ := declared_of_rules hrules hbody
  have hfirst : (declaredRules first).length = rules.length := by
    simpa using congrArg List.length hdeclared
  have hall : (declaredBase (first ++ others)).rules.length =
      (declaredRules first).length + (declaredRules others).length := by
    rw [declaredBase, Base.rules_ofParts, List.length_mergeSort, declaredRules,
      List.filterMap_append, List.length_append, declaredRules, declaredRules]
  have hnone : declaredRules others = [] := List.eq_nil_of_length_eq_zero (by omega)
  intro entry hentry
  rcases hconsistent.sound entry (List.mem_append_right _ hentry) with ⟨rule, hrule⟩ | ⟨binding, hb⟩
  · rw [List.filterMap_eq_nil_iff.1 hnone entry hentry] at hrule
    cases hrule
  · obtain ⟨-, -, hbody⟩ := Entry.binding?_eq_some_iff.1 hb
    exact ⟨_, _, _, hbody⟩

/-! ## What is read back is plain -/

/-- If an equal base is loaded from the written form, then all bindings are plain. -/
theorem isPlain_of_same {base again : Base} (h : base.IsWritable keywords)
    (hagain : loadBase other (base.toText other) = .ok again) (hsame : again.same base = true) :
    ∀ binding ∈ base.allBindings, binding.IsPlain other := by
  intro binding hbinding
  have hbindings : ∀ binding ∈ base.allBindings, binding.IsWritable := fun binding hbinding =>
    (h.bindings binding hbinding).1
  have hfilled := @isFilled_of_bindings other _ hbindings
  have hne : base.allBindings.map (Binding.writtenLine other) ≠ [] :=
    List.ne_nil_of_mem (List.mem_map_of_mem hbinding)
  obtain ⟨entries, hread, hconsistent, rfl⟩ := loadBase_eq_ok_iff.1 hagain
  obtain ⟨slots, hslots, rfl⟩ := exists_slots_of_readDocument hread
  -- The written form is a text of lines, and those of the rules are read as rules.
  rw [Base.toList_toText_of_ne_nil (List.append_ne_nil_of_right_ne_nil _ hne), Base.writtenLines,
    skipGap_eq_self (stops_isGap_joined (isFilled_of_rules h.rules hfilled))] at hslots
  obtain ⟨first, others, rfl, hfirst, hothers⟩ :=
    exists_append_of_rules h.rules hfilled hne hslots
  -- There are as many rules in an equal base, so the other lines are read as bindings.
  rw [List.map_append] at hconsistent hsame
  have hbody : ((first.map (Slot.locate (base.toText other).toList)).map Entry.body) =
      base.rules.map Rule.body := by
    rw [List.map_map, ← hfirst]
    rfl
  have hrest := exists_binding_of_length h.rules hconsistent hbody (Base.length_rules_of_same hsame)
  exact isPlain_of_readEntries hbindings hothers
    (fun slot hslot => hrest _ (List.mem_map_of_mem hslot)) binding hbinding

/-! ## Dialects -/

/-- Every loaded base is read back from its text in other keywords if each of these that begins
bindings has a character besides digits. -/
theorem exists_loadBase_of_words {text : String} {base : Base}
    (h : loadBase keywords text = .ok base)
    (hwords : ∀ kind : BindingKind, ∃ c ∈ (kind.word other).toList, isNumberDigit c = false) :
    ∃ again, loadBase other (base.toText other) = .ok again ∧ again.SameParts base := by
  have hwritable := isWritable_of_loadBase h
  refine exists_loadBase_of_isWritable (hwritable.of_isPlain fun binding hbinding => ?_)
  rw [Binding.isPlain_iff (hwritable.bindings binding hbinding).1.category]
  intro hlooks
  obtain ⟨c, hc, hdigit⟩ := hwords binding.kind
  rw [hlooks.digits c hc] at hdigit
  cases hdigit

/-- A base that was loaded is loaded from its text in other keywords, as an equal base, exactly if
no binding looks like a rule there. -/
theorem loadBase_toText_other_iff {text : String} {base : Base}
    (h : loadBase keywords text = .ok base) (other : Keywords) :
    (∃ again, loadBase other (base.toText other) = .ok again ∧ again.same base = true) ↔
      ∀ binding ∈ base.allBindings, ¬ binding.LooksLikeRule other := by
  have hwritable := isWritable_of_loadBase h
  have hplain : ∀ binding ∈ base.allBindings,
      (binding.IsPlain other ↔ ¬ binding.LooksLikeRule other) := fun binding hbinding =>
    Binding.isPlain_iff (hwritable.bindings binding hbinding).1.category
  constructor
  · rintro ⟨again, hagain, hsame⟩ binding hbinding
    exact (hplain binding hbinding).1 (isPlain_of_same hwritable hagain hsame binding hbinding)
  · intro hnone
    obtain ⟨again, hagain, hsame⟩ := exists_loadBase_of_isWritable
      (hwritable.of_isPlain fun binding hbinding =>
        (hplain binding hbinding).2 (hnone binding hbinding))
    exact ⟨again, hagain, hsame.same⟩

/-- The question is for the word `if` and its keyword a number, but its text lacks a conclusion, so
that its line is no rule. -/
theorem loadBase_toText_other_iff_numberedKeywords :
    ∃ base again, loadBase .standard "вопрос if a-b" = .ok base ∧
      loadBase numberedKeywords (base.toText numberedKeywords) = .ok again ∧
      again.same base = true := by
  obtain ⟨base, hload⟩ := exists_ok_of_isSome (show
    (loadBase .standard "вопрос if a-b").toOption.isSome = true by decide +kernel)
  have hnone : ((loadBase .standard "вопрос if a-b").toOption.all fun base =>
      base.allBindings.all fun binding =>
        !decide (binding.LooksLikeRule numberedKeywords)) = true := by decide +kernel
  rw [hload] at hnone
  have hbindings : ∀ binding ∈ base.allBindings, ¬ binding.LooksLikeRule numberedKeywords := by
    simpa [Except.toOption] using hnone
  obtain ⟨again, hagain, hsame⟩ := (loadBase_toText_other_iff hload numberedKeywords).2 hbindings
  exact ⟨base, again, hload, hagain, hsame⟩

/-- With a conclusion in its text the question comes back as a rule. -/
theorem question_loaded_as_rule :
    ∃ base again, loadBase .standard "вопрос if a-b then c-d" = .ok base ∧
      loadBase numberedKeywords (base.toText numberedKeywords) = .ok again ∧
      again.same base = false := by
  obtain ⟨base, hload⟩ := exists_ok_of_isSome (show
    (loadBase .standard "вопрос if a-b then c-d").toOption.isSome = true by decide +kernel)
  have hdiffers : ((loadBase .standard "вопрос if a-b then c-d").toOption.bind fun base =>
      (loadBase numberedKeywords (base.toText numberedKeywords)).toOption.map fun again =>
        again.same base) = some false := by decide +kernel
  rw [hload] at hdiffers
  cases hagain : loadBase numberedKeywords (base.toText numberedKeywords) with
  | error fault =>
    simp [Except.toOption, hagain] at hdiffers
  | ok again =>
    simp only [Except.toOption, hagain, Option.bind_some, Option.map_some,
      Option.some.injEq] at hdiffers
    exact ⟨base, again, hload, hagain, hdiffers⟩

end RuleConsult
