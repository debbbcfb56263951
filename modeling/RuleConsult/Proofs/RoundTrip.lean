import RuleConsult.Proofs.Base.Same
import RuleConsult.Proofs.Reading.Faithful
import RuleConsult.Proofs.Reading.Lines

/-!
# A base is read back from its written form

The written form of a base has a line for each rule and for each binding. If the base was loaded
with the same keywords, this text is loaded again, as a base that holds the same knowledge and is
written in the same way.

* `isWritable_of_loadBase`: the properties of a loaded base on which reading it back rests;
* `Base.legible_writtenLines`: every line of its written form is read as the rule or binding that
  was written on it, and not beyond its end;
* `loadBase_toText`: the written form is loaded again.
-/

namespace RuleConsult

open Text

variable {keywords : Keywords}

/-! ## Loading -/

/-- Every slot holds what is read at its beginning, and there is at least one. -/
theorem readEntry_of_readEntries {text : List Char} {slots : List Slot}
    (h : readEntries keywords text = .ok slots) :
    slots ≠ [] ∧
      ∀ slot ∈ slots, ∃ rest, (readEntry keywords slot.start).result = some (slot.body, rest) := by
  refine readEntries_induction ?last ?more h
  case last =>
    intro text body rest hread hrest
    refine ⟨List.cons_ne_nil _ _, fun slot hslot => ?_⟩
    rw [List.mem_singleton.1 hslot]
    exact ⟨rest, hread⟩
  case more =>
    intro text body rest others hread hothers ih
    refine ⟨List.cons_ne_nil _ _, fun slot hslot => ?_⟩
    rcases List.mem_cons.1 hslot with rfl | hslot
    · exact ⟨rest, hread⟩
    · exact ih.2 slot hslot

/-- The entries of a document are what was read behind its white space. -/
theorem exists_slots_of_readDocument {text : String} {entries : List Entry}
    (h : readDocument keywords text = .ok entries) :
    ∃ slots, readEntries keywords (skipGap text.toList) = .ok slots ∧
      entries = slots.map (Slot.locate text.toList) := by
  simp only [readDocument] at h
  cases hslots : readEntries keywords (skipGap text.toList) with
  | error stuck =>
    rw [hslots] at h
    cases h
  | ok slots =>
    rw [hslots] at h
    cases h
    exact ⟨slots, rfl, rfl⟩

/-- Every entry of a document was read somewhere, and there is at least one. -/
theorem readEntry_of_readDocument {text : String} {entries : List Entry}
    (h : readDocument keywords text = .ok entries) :
    entries ≠ [] ∧ ∀ entry ∈ entries, ∃ start rest,
      (readEntry keywords start).result = some (entry.body, rest) := by
  obtain ⟨slots, hslots, rfl⟩ := exists_slots_of_readDocument h
  obtain ⟨hne, hread⟩ := readEntry_of_readEntries hslots
  refine ⟨fun hnil => hne (List.map_eq_nil_iff.1 hnil), fun entry hentry => ?_⟩
  obtain ⟨slot, hslot, rfl⟩ := List.mem_map.1 hentry
  obtain ⟨rest, hrest⟩ := hread slot hslot
  exact ⟨slot.start, rest, hrest⟩

/-- A base is loaded exactly from a document with consistent entries. -/
theorem loadBase_eq_ok_iff {text : String} {base : Base} :
    loadBase keywords text = .ok base ↔
      ∃ entries, readDocument keywords text = .ok entries ∧ IsConsistent entries ∧
        base = declaredBase entries := by
  unfold loadBase
  constructor
  · intro h
    split at h
    · exact nomatch h
    · rename_i entries hread
      split at h
      · exact nomatch h
      · rename_i hbuild
        cases h
        exact ⟨entries, hread, build_eq_ok_some hbuild⟩
      · exact nomatch h
  · rintro ⟨entries, hread, hconsistent, rfl⟩
    obtain ⟨notices, hbuild⟩ := build_of_isConsistent hconsistent
    rw [hread]
    simp only [hbuild]

/-- Entries that are built are the base that is loaded. -/
theorem loadBase_of_toOption {text : String} {entries : List Entry}
    (hread : (readDocument keywords text).toOption = some entries)
    (hbuild : ((build entries).toOption.bind Build.base?).isSome = true) :
    loadBase keywords text = .ok (declaredBase entries) := by
  obtain ⟨notices, hbuilt⟩ := exists_build_of_isSome hbuild
  exact loadBase_eq_ok_iff.2
    ⟨entries, eq_ok_of_toOption hread, (build_eq_ok_some hbuilt).1, rfl⟩

/-- An outcome that holds a value is no fault. -/
theorem exists_ok_of_isSome {ε α : Type} {outcome : Except ε α}
    (h : outcome.toOption.isSome = true) : ∃ value, outcome = .ok value := by
  cases outcome with
  | error fault => cases h
  | ok value => exact ⟨value, rfl⟩

/-! ## Writable bases -/

namespace Base

/-- The bindings of a base are those of its three kinds. -/
theorem mem_allBindings {base : Base} {binding : Binding} :
    binding ∈ base.allBindings ↔ ∃ kind, binding ∈ (base.bindings kind).toList := by
  rw [allBindings, List.mem_append, List.mem_append]
  constructor
  · rintro ((h | h) | h)
    · exact ⟨.advice, h⟩
    · exact ⟨.translation, h⟩
    · exact ⟨.tip, h⟩
  · rintro ⟨_ | _ | _, h⟩
    · exact Or.inl (Or.inl h)
    · exact Or.inl (Or.inr h)
    · exact Or.inr h

/-- A base whose written form can be read back. -/
structure IsWritable (keywords : Keywords) (base : Base) : Prop extends base.IsSound where
  bindings : ∀ binding ∈ base.allBindings, binding.IsWritable ∧ binding.IsPlain keywords
  nonempty : base.rules ≠ [] ∨ base.allBindings ≠ []

theorem IsWritable.rules {base : Base} (h : base.IsWritable keywords) :
    ∀ rule ∈ base.rules, rule.IsWritable := fun rule hrule =>
  { h.formed rule hrule with number := h.numbers rule hrule }

end Base

/-- A base that was loaded can be written. -/
theorem isWritable_of_loadBase {text : String} {base : Base}
    (h : loadBase keywords text = .ok base) : base.IsWritable keywords := by
  obtain ⟨entries, hread, hconsistent, rfl⟩ := loadBase_eq_ok_iff.1 h
  obtain ⟨hne, hentries⟩ := readEntry_of_readDocument hread
  refine { Base.isSound_declaredBase hconsistent with
    bindings := fun binding hbinding => ?_, nonempty := ?_ }
  · obtain ⟨kind, hkind⟩ := Base.mem_allBindings.1 hbinding
    rw [Base.toList_bindings_declaredBase hconsistent] at hkind
    obtain ⟨entry, hentry, hbound⟩ := List.mem_filterMap.1 (List.mem_filter.1 hkind).1
    obtain ⟨-, -, hbody⟩ := Entry.binding?_eq_some_iff.1 hbound
    obtain ⟨start, rest, hstart⟩ := hentries entry hentry
    rw [hbody] at hstart
    exact ⟨isWritable_of_readEntry hstart, isPlain_of_readEntry hstart⟩
  · obtain ⟨entry, hentry⟩ := List.exists_mem_of_ne_nil entries hne
    rcases hconsistent.sound entry hentry with ⟨rule, hrule⟩ | ⟨binding, hbinding⟩
    · refine Or.inl (@List.ne_nil_of_mem _ rule _ ?_)
      exact Base.mem_rules_ofParts.2 (List.mem_filterMap.2 ⟨entry, hentry, hrule⟩)
    · refine Or.inr (@List.ne_nil_of_mem _ binding _ (Base.mem_allBindings.2 ⟨binding.kind, ?_⟩))
      rw [Base.toList_bindings_declaredBase hconsistent]
      exact List.mem_filter.2
        ⟨List.mem_filterMap.2 ⟨entry, hentry, hbinding⟩, beq_self_eq_true _⟩

/-! ## The lines of a written base -/

/-- The line of a rule. -/
def Rule.writtenLine (keywords : Keywords) (rule : Rule) : Line :=
  ⟨(rule.toText keywords).toList, rule.body⟩

/-- The line of a binding. -/
def Binding.writtenLine (keywords : Keywords) (binding : Binding) : Line :=
  ⟨(binding.toText keywords).toList, binding.body⟩

/-- The lines of a base: rules, then bindings. -/
def Base.writtenLines (keywords : Keywords) (base : Base) : List Line :=
  base.rules.map (Rule.writtenLine keywords) ++
    base.allBindings.map (Binding.writtenLine keywords)

theorem lineFeed_notMem_token {token : String} (h : isToken token = true) :
    '\n' ∉ token.toList := by
  intro hmem
  have := isWord_of_mem_token h _ hmem
  rw [isWord_of_isGap rfl] at this
  cases this

theorem lineFeed_notMem_pair {pair : Pair} (h : pair.IsTokens) :
    '\n' ∉ pair.toText.toList := by
  rw [pair.toList_toText, List.mem_append, List.mem_cons]
  rintro (hmem | heq | hmem)
  · exact lineFeed_notMem_token h.category hmem
  · exact absurd heq (by decide)
  · exact lineFeed_notMem_token h.value hmem

theorem lineFeed_notMem_furtherConditions {pairs : List Pair}
    (h : ∀ pair ∈ pairs, pair.IsTokens) : '\n' ∉ furtherConditions keywords pairs := by
  have hand := lineFeed_notMem_token (keywords.isToken_get .ruleAnd)
  intro hmem
  obtain ⟨pair, hpair, hmem⟩ := List.mem_flatMap.1 hmem
  simp only [List.mem_cons, List.mem_append] at hmem
  rcases hmem with heq | hmem | heq | hmem
  · exact absurd heq (by decide)
  · exact hand hmem
  · exact absurd heq (by decide)
  · exact lineFeed_notMem_pair (h pair hpair) hmem

/-- The line of a rule is one line that begins with its number. -/
theorem chars_of_rule {rule : Rule} (h : rule.IsWritable) :
    Stops isGap (rule.toText keywords).toList ∧ '\n' ∉ (rule.toText keywords).toList := by
  have hif := lineFeed_notMem_token (keywords.isToken_get .ruleIf)
  have hthen := lineFeed_notMem_token (keywords.isToken_get .ruleThen)
  have hid : isToken (toString rule.id) = true := by
    obtain ⟨n, hn, -⟩ := h.number
    exact hn ▸ isToken_toString n
  cases hconditions : rule.conditions with
  | nil => exact absurd hconditions h.conditions_ne
  | cons first others =>
    have hpairs : ∀ pair ∈ first :: others, pair.IsTokens := hconditions ▸ h.conditions
    rw [Rule.toList_toText hconditions]
    refine ⟨stops_isGap_token hid _, fun hmem => ?_⟩
    simp only [clausesText, List.mem_append, List.mem_cons] at hmem
    -- A line feed would be in one of the words or pairs, or it would be a space.
    rcases hmem with hmem | heq | hmem | heq | hmem | hmem | heq | hmem | heq | hmem
    · exact lineFeed_notMem_token hid hmem
    · exact absurd heq (by decide)
    · exact hif hmem
    · exact absurd heq (by decide)
    · exact lineFeed_notMem_pair (hpairs first List.mem_cons_self) hmem
    · exact lineFeed_notMem_furtherConditions
        (fun pair hpair => hpairs pair (List.mem_cons_of_mem _ hpair)) hmem
    · exact absurd heq (by decide)
    · exact hthen hmem
    · exact absurd heq (by decide)
    · exact lineFeed_notMem_pair h.conclusion hmem

/-- The line of a binding is one line that begins with its keyword. -/
theorem chars_of_binding {binding : Binding} (h : binding.IsWritable) :
    Stops isGap (binding.toText keywords).toList ∧ '\n' ∉ (binding.toText keywords).toList := by
  have hword := binding.kind.isToken_word keywords
  rw [Binding.toList_toText]
  refine ⟨stops_isGap_token hword _, fun hmem => ?_⟩
  have htext : '\n' ∉ bindingTail binding.text := by
    rw [bindingTail]
    split
    · exact List.not_mem_nil
    · rw [List.mem_cons]
      rintro (heq | hmem)
      · exact absurd heq (by decide)
      · have := h.text.allowed _ hmem
        rw [isFreeText_lineFeed] at this
        cases this
  simp only [List.mem_append, List.mem_cons] at hmem
  rcases hmem with hmem | heq | hmem | hmem
  · exact lineFeed_notMem_token hword hmem
  · exact absurd heq (by decide)
  · exact lineFeed_notMem_token h.category hmem
  · exact htext hmem

/-- What follows the line of a binding is inert if it is the end or the lines of bindings. -/
theorem inert_joined_bindings (bindings : List Binding) :
    Inert keywords ('\n' :: joined (bindings.map (Binding.writtenLine keywords))) := by
  cases bindings with
  | nil => exact inert_lineFeed_nil
  | cons next bindings =>
    rw [List.map_cons, joined_cons]
    exact inert_lineFeed_binding next _

/-- The lines of bindings are legible: behind each of them stands nothing or a further binding. -/
theorem legible_bindings {bindings : List Binding}
    (h : ∀ binding ∈ bindings, binding.IsWritable ∧ binding.IsPlain keywords) :
    Legible keywords (bindings.map (Binding.writtenLine keywords)) := by
  induction bindings with
  | nil => exact .nil
  | cons binding bindings ih =>
    obtain ⟨hwritable, hplain⟩ := h binding List.mem_cons_self
    obtain ⟨hstops, hsingle⟩ := @chars_of_binding keywords binding hwritable
    exact .cons (readEntry_binding hwritable hplain (inert_joined_bindings bindings)) hstops hsingle
      (ih fun other hother => h other (List.mem_cons_of_mem _ hother))

/-- Rules are legible in front of any legible lines. -/
theorem legible_rules {rules : List Rule} {lines : List Line}
    (h : ∀ rule ∈ rules, rule.IsWritable) (hlines : Legible keywords lines) :
    Legible keywords (rules.map (Rule.writtenLine keywords) ++ lines) := by
  induction rules with
  | nil => exact hlines
  | cons rule rules ih =>
    have hwritable := h rule List.mem_cons_self
    obtain ⟨hstops, hsingle⟩ := @chars_of_rule keywords rule hwritable
    exact .cons (readEntry_rule hwritable (stops_isWord_lineFeed _)) hstops hsingle
      (ih fun other hother => h other (List.mem_cons_of_mem _ hother))

namespace Base

variable {base : Base}

/-- Every line of a writable base is read as what was written on it. -/
theorem legible_writtenLines (h : base.IsWritable keywords) :
    Legible keywords (base.writtenLines keywords) :=
  legible_rules h.rules (legible_bindings h.bindings)

theorem writtenLines_ne_nil_iff :
    base.writtenLines keywords ≠ [] ↔ base.rules ≠ [] ∨ base.allBindings ≠ [] := by
  rw [writtenLines, ne_eq, List.append_eq_nil_iff, List.map_eq_nil_iff, List.map_eq_nil_iff,
    not_and_or]

/-- A writable base is written in at least one line. -/
theorem writtenLines_ne_nil (h : base.IsWritable keywords) :
    base.writtenLines keywords ≠ [] :=
  writtenLines_ne_nil_iff.2 h.nonempty

end Base

theorem toList_intercalate_lineFeed {texts : List String} (h : texts ≠ []) :
    (String.intercalate "\n" texts ++ "\n").toList =
      texts.flatMap fun text => text.toList ++ ['\n'] := by
  induction texts with
  | nil => exact absurd rfl h
  | cons text texts ih =>
    cases texts with
    | nil => simp
    | cons next texts =>
      have hnext := ih (List.cons_ne_nil _ _)
      rw [String.toList_append] at hnext
      rw [String.intercalate_cons_cons, String.toList_append, String.toList_append,
        String.toList_append, List.append_assoc, hnext]
      simp

/-- The written form of a base consists of its lines, if there are any. -/
theorem Base.toList_toText_of_ne_nil {base : Base} (h : base.writtenLines keywords ≠ []) :
    (base.toText keywords).toList = joined (base.writtenLines keywords) := by
  have htexts : base.rules.map (Rule.toText keywords) ++
      base.allBindings.map (Binding.toText keywords) ≠ [] := by
    intro hnil
    apply h
    simpa [Base.writtenLines] using hnil
  rw [Base.toText, toList_intercalate_lineFeed htexts, joined, Base.writtenLines,
    List.flatMap_append, List.flatMap_append, List.flatMap_map, List.flatMap_map,
    List.flatMap_map, List.flatMap_map]
  rfl

/-- The text of a base is its written lines, each with its line feed. -/
theorem Base.toList_toText {base : Base} (h : base.IsWritable keywords) :
    (base.toText keywords).toList = joined (base.writtenLines keywords) :=
  toList_toText_of_ne_nil (writtenLines_ne_nil h)

/-! ## Lines are not written -/

namespace Base

/-- Bases with the same parts are written alike. -/
theorem SameParts.toText {a b : Base} (h : a.SameParts b) (keywords : Keywords) :
    a.toText keywords = b.toText keywords := by
  have hrules : ∀ rules : List Rule,
      rules.map (Rule.toText keywords) = (rules.map Rule.bare).map (Rule.toText keywords) := by
    intro rules
    rw [List.map_map]
    rfl
  have hbindings : ∀ bindings : List Binding, bindings.map (Binding.toText keywords) =
      (bindings.map Binding.bare).map (Binding.toText keywords) := by
    intro bindings
    rw [List.map_map]
    rfl
  have hall : a.allBindings.map Binding.bare = b.allBindings.map Binding.bare := by
    rw [allBindings, allBindings, List.map_append, List.map_append, List.map_append,
      List.map_append]
    exact congrArg₂ _ (congrArg₂ _ (h.bindings .advice) (h.bindings .translation))
      (h.bindings .tip)
  rw [Base.toText, Base.toText, hrules, h.rules, ← hrules, hbindings, hall, ← hbindings]

end Base

/-! ## Reading back -/

/-- Entries that say what some rules say declare these rules. -/
theorem declared_of_rules {entries : List Entry} {rules : List Rule}
    (hrules : ∀ rule ∈ rules, rule.IsWritable)
    (hbody : entries.map Entry.body = rules.map Rule.body) :
    (∀ entry ∈ entries, entry.IsSound) ∧
      (declaredRules entries).map Rule.bare = rules.map Rule.bare ∧
      declaredBindings entries = [] := by
  induction rules generalizing entries with
  | nil =>
    rw [List.map_nil, List.map_eq_nil_iff] at hbody
    subst hbody
    exact ⟨fun _ h => (nomatch h), rfl, rfl⟩
  | cons rule rules ih =>
    cases entries with
    | nil => exact nomatch hbody
    | cons entry entries =>
      rw [List.map_cons, List.map_cons, List.cons.injEq] at hbody
      have hrule := hrules rule List.mem_cons_self
      obtain ⟨hsound, hdeclared, hnone⟩ :=
        ih (fun other hother => hrules other (List.mem_cons_of_mem _ hother)) hbody.2
      -- The first entry declares the first rule and no binding.
      have hfirst := Entry.rule?_of_isWellFormed hrule.toIsWellFormed hrule.number hbody.1
      refine ⟨fun other hother => ?_, ?_, ?_⟩
      · rcases List.mem_cons.1 hother with rfl | hother
        · exact Or.inl ⟨_, hfirst⟩
        · exact hsound other hother
      · rw [declaredRules, List.filterMap_cons_some hfirst, List.map_cons, List.map_cons,
          ← declaredRules, hdeclared]
        rfl
      · rw [declaredBindings, List.filterMap_cons_none (Entry.binding?_of_rule? hfirst)]
        exact hnone

/-- Entries that say what some bindings say declare these bindings. -/
theorem declared_of_bindings {entries : List Entry} {bindings : List Binding}
    (hbindings : ∀ binding ∈ bindings, isToken binding.category = true)
    (hbody : entries.map Entry.body = bindings.map Binding.body) :
    (∀ entry ∈ entries, entry.IsSound) ∧ declaredRules entries = [] ∧
      (declaredBindings entries).map Binding.bare = bindings.map Binding.bare := by
  induction bindings generalizing entries with
  | nil =>
    rw [List.map_nil, List.map_eq_nil_iff] at hbody
    subst hbody
    exact ⟨fun _ h => (nomatch h), rfl, rfl⟩
  | cons binding bindings ih =>
    cases entries with
    | nil => exact nomatch hbody
    | cons entry entries =>
      rw [List.map_cons, List.map_cons, List.cons.injEq] at hbody
      obtain ⟨hsound, hnone, hdeclared⟩ :=
        ih (fun other hother => hbindings other (List.mem_cons_of_mem _ hother)) hbody.2
      -- The first entry declares the first binding and no rule.
      have hfirst : entry.binding? = some { binding with line := some entry.line } :=
        Entry.binding?_eq_some_iff.2 ⟨hbindings binding List.mem_cons_self, rfl, hbody.1⟩
      refine ⟨fun other hother => ?_, ?_, ?_⟩
      · rcases List.mem_cons.1 hother with rfl | hother
        · exact Or.inr ⟨_, hfirst⟩
        · exact hsound other hother
      · rw [declaredRules, List.filterMap_cons_none (Entry.rule?_of_binding? hfirst)]
        exact hnone
      · rw [declaredBindings, List.filterMap_cons_some hfirst, List.map_cons, List.map_cons,
          ← declaredBindings, hdeclared]
        rfl

theorem ofKind_map_bare (kind : BindingKind) (bindings : List Binding) :
    (Binding.ofKind kind bindings).map Binding.bare =
      Binding.ofKind kind (bindings.map Binding.bare) := by
  rw [Binding.ofKind, Binding.ofKind, List.filter_map]
  rfl

namespace Base

variable {base : Base}

/-- The table of a kind holds the bindings of that kind among all. -/
theorem ofKind_allBindings (h : base.IsSound) (kind : BindingKind) :
    Binding.ofKind kind base.allBindings = (base.bindings kind).toList := by
  have hself : ∀ other, Binding.ofKind kind (base.bindings other).toList =
      if other = kind then (base.bindings other).toList else [] := by
    intro other
    rw [Binding.ofKind]
    split
    · rename_i heq
      rw [List.filter_eq_self]
      exact fun binding hbinding => by simp [h.kinds other binding hbinding, heq]
    · rename_i hne
      rw [List.filter_eq_nil_iff]
      exact fun binding hbinding => by simp [h.kinds other binding hbinding, hne]
  have hadvice := hself .advice
  have htranslation := hself .translation
  have htip := hself .tip
  simp only [Binding.ofKind, bindings] at hadvice htranslation htip ⊢
  rw [allBindings, List.filter_append, List.filter_append, hadvice, htranslation, htip]
  cases kind <;> simp

/-- Entries that say what a writable base says are consistent, and declare that base. -/
theorem declaredBase_of_writtenLines {entries : List Entry} (h : base.IsWritable keywords)
    (hbody : entries.map Entry.body = (base.writtenLines keywords).map Line.body) :
    IsConsistent entries ∧ (declaredBase entries).SameParts base := by
  rw [writtenLines, List.map_append, List.map_map, List.map_map, List.map_eq_append_iff] at hbody
  obtain ⟨rules, bindings, rfl, hrules, hbindings⟩ := hbody
  obtain ⟨hsound, hdeclared, hnone⟩ := declared_of_rules h.rules hrules
  obtain ⟨hsound', hnone', hdeclared'⟩ :=
    declared_of_bindings (fun b hb => (h.bindings b hb).1.category) hbindings
  have hallRules : (declaredRules (rules ++ bindings)).map Rule.bare =
      base.rules.map Rule.bare := by
    rw [declaredRules, List.filterMap_append, ← declaredRules, ← declaredRules, hnone',
      List.append_nil, hdeclared]
  have hkind : ∀ kind,
      (Binding.ofKind kind (declaredBindings (rules ++ bindings))).map Binding.bare =
        (base.bindings kind).toList.map Binding.bare := by
    intro kind
    rw [declaredBindings, List.filterMap_append, ← declaredBindings, ← declaredBindings, hnone,
      List.nil_append, ofKind_map_bare, hdeclared', ← ofKind_map_bare,
      ofKind_allBindings h.toIsSound]
  -- Numbers and categories are those of the base, whatever the lines.
  have hids : (declaredRules (rules ++ bindings)).map Rule.id = base.rules.map Rule.id := by
    have := congrArg (List.map Rule.id) hallRules
    simpa [List.map_map, Function.comp_def, Rule.bare] using this
  have hconsistent : IsConsistent (rules ++ bindings) := by
    refine ⟨fun entry hentry => ?_, ?_, fun kind => ?_⟩
    · rcases List.mem_append.1 hentry with hentry | hentry
      · exact hsound entry hentry
      · exact hsound' entry hentry
    · rw [hids]
      exact List.pairwise_map.2 (h.ascending.imp fun hlt heq => by omega)
    · have := congrArg (List.map Binding.category) (hkind kind)
      simp only [List.map_map, Function.comp_def, Binding.bare] at this
      rw [this]
      exact (base.bindings kind).nodup_categories
  refine ⟨hconsistent, ?_, fun kind => ?_⟩
  · have hascending : (declaredRules (rules ++ bindings)).Pairwise fun a b => a.id ≤ b.id := by
      have hle : (base.rules.map Rule.id).Pairwise (· ≤ ·) :=
        List.pairwise_map.2 (h.ascending.imp fun hlt => by omega)
      exact List.pairwise_map.1 (hids ▸ hle)
    rw [declaredBase, rules_ofParts_of_ascending _ _ _ hascending, hallRules]
  · rw [toList_bindings_declaredBase hconsistent, hkind]

end Base

/-- A base that was loaded is loaded again from its written form: an equal base, written in the same
way. In the written form every line is an entry. -/
theorem loadBase_toText {text : String} {base : Base} (h : loadBase keywords text = .ok base) :
    ∃ again entries,
      loadBase keywords (base.toText keywords) = .ok again ∧
      again.same base = true ∧
      again.toText keywords = base.toText keywords ∧
      readDocument keywords (base.toText keywords) = .ok entries ∧
      entries.length = (base.toText keywords).toList.count '\n' ∧
      ∀ (k : Nat) (hk : k < entries.length), entries[k].line = k + 1 ∧ entries[k].column = 1 := by
  have hwritable := isWritable_of_loadBase h
  have htext := Base.toList_toText hwritable
  have hlegible := Base.legible_writtenLines hwritable
  obtain ⟨entries, hread, hentries⟩ :=
    readDocument_of_legible hlegible (Base.writtenLines_ne_nil hwritable) htext
  have hlength : entries.length = (base.writtenLines keywords).length := by
    simpa using congrArg List.length hentries
  -- Entry and line correspond one by one.
  have hplaces : ∀ (k : Nat) (hk : k < entries.length),
      entries[k].line = k + 1 ∧ entries[k].column = 1 ∧
        entries[k].body = ((base.writtenLines keywords).get ⟨k, hlength ▸ hk⟩).body := by
    intro k hk
    have hplace := congrArg (fun places => places[k]?) hentries
    simp only [List.getElem?_map, List.getElem?_mapIdx, List.getElem?_eq_getElem hk,
      List.getElem?_eq_getElem (hlength ▸ hk), Option.map_some, Option.some.injEq,
      Prod.mk.injEq] at hplace
    exact hplace
  have hbody : entries.map Entry.body = (base.writtenLines keywords).map Line.body := by
    refine List.ext_getElem (by simp [hlength]) fun k hk hk' => ?_
    rw [List.getElem_map, List.getElem_map]
    exact (hplaces k (by simpa using hk)).2.2
  obtain ⟨hconsistent, hsame⟩ := Base.declaredBase_of_writtenLines hwritable hbody
  refine ⟨declaredBase entries, entries, loadBase_eq_ok_iff.2 ⟨entries, hread, hconsistent, rfl⟩,
    hsame.same, hsame.toText keywords, hread, ?_, fun k hk => ?_⟩
  · rw [hlength, htext]
    exact Nat.succ.inj (location_after_joined hlegible.single).1.symm
  · obtain ⟨hline, hcolumn, -⟩ := hplaces k hk
    exact ⟨hline, hcolumn⟩

/-- A base with a question for the category `if`, whose line looks like the beginning of a rule. -/
theorem loadBase_toText_numberedKeywords :
    ∃ base again, loadBase numberedKeywords "1 if a-b\n then c-d 7 if a-b" = .ok base ∧
      loadBase numberedKeywords (base.toText numberedKeywords) = .ok again ∧
      again.same base = true ∧
      again.toText numberedKeywords = base.toText numberedKeywords := by
  have hloads : (loadBase numberedKeywords "1 if a-b\n then c-d 7 if a-b").toOption.isSome = true :=
    by decide +kernel
  cases h : loadBase numberedKeywords "1 if a-b\n then c-d 7 if a-b" with
  | error fault =>
    rw [h] at hloads
    cases hloads
  | ok base =>
    obtain ⟨again, entries, hagain, hsame, htext, -⟩ := loadBase_toText h
    exact ⟨base, again, rfl, hagain, hsame, htext⟩

end RuleConsult
