import TraefikUpgrade.Proofs.Text.Blank
import TraefikUpgrade.Proofs.Text.Segment
import TraefikUpgrade.RequestModifier

/-!
Contract: the grammar of request modifiers.

Owns: the body of a text, the bodies that name a rule with its value, the
values that hold a regex and a replacement, what each body stands for in terms
of both, and the agreement of the reading with the grammar: every text stands
for exactly one middleware or one fault.

Does not own: what happens to a modifier with a fault
(`TraefikUpgrade.Conversion`).
-/

set_option autoImplicit false

namespace TraefikUpgrade.RequestModifier

/-! ### The grammar -/

/-- The characters that may stand around a colon and behind a regex. -/
def spacingCharacters : List Char :=
  [' ', '\t', '\r', '\n']

/-- A text without the spaces and colons at its end, and then without the blanks at its start. -/
structure IsBody (text content : List Char) : Prop where
  surrounded : ∃ before after, (∀ character ∈ before, Text.isBlank character = true) ∧
    (∀ character ∈ after, character = ' ' ∨ character = ':') ∧ text = before ++ content ++ after
  first : ∀ character ∈ content.head?, Text.isBlank character = false
  last : ∀ character ∈ content.getLast?, character ≠ ' ' ∧ character ≠ ':'

/-- The name of a rule, any spacing, and then the end or a colon and the value with blanks around
it. Without a colon the value is empty. -/
inductive IsRule : List Char → ModifierRule → List Char → Prop where
  | bare {spacing : List Char} (rule : ModifierRule)
      (isSpacing : ∀ character ∈ spacing, character ∈ spacingCharacters) :
      IsRule (rule.name.toList ++ spacing) rule []
  | valued {spacing : List Char} (rule : ModifierRule)
      (isSpacing : ∀ character ∈ spacing, character ∈ spacingCharacters) (rest : List Char) :
      IsRule (rule.name.toList ++ (spacing ++ ':' :: rest)) rule (Text.trim rest)

/-- A regex without spaces and tabs, a run of spacing that starts with one of them, and a
replacement with blanks around it. -/
inductive IsPair : List Char → List Char → List Char → Prop where
  | cut {regex spacing rest : List Char} {separator : Char} (visible : regex ≠ [])
      (whole : ∀ character ∈ regex, character ≠ ' ' ∧ character ≠ '\t')
      (separates : separator = ' ' ∨ separator = '\t')
      (isSpacing : ∀ character ∈ spacing, character ∈ spacingCharacters)
      (maximal : ∀ character ∈ rest.head?, character ∉ spacingCharacters)
      (replaces : Text.trim rest ≠ []) :
      IsPair (regex ++ separator :: (spacing ++ rest)) regex (Text.trim rest)

/-- What a body stands for. -/
inductive StandsFor (content : List Char) :
    Except RequestModifierError MiddlewareKind → Prop where
  | empty (nothing : content = []) : StandsFor content (.error .empty)
  | missingValue {rule : ModifierRule} (isRule : IsRule content rule []) :
      StandsFor content (.error (.missingValue rule))
  | addPrefix {value : List Char} (isRule : IsRule content .addPrefix value)
      (visible : value ≠ []) : StandsFor content (.ok (.addPrefix (String.ofList value)))
  | replacePath {value : List Char} (isRule : IsRule content .replacePath value)
      (visible : value ≠ []) : StandsFor content (.ok (.replacePath (String.ofList value)))
  | missingReplacement {value : List Char} (isRule : IsRule content .replacePathRegex value)
      (visible : value ≠ []) (whole : ∀ character ∈ value, character ≠ ' ' ∧ character ≠ '\t') :
      StandsFor content (.error (.missingReplacement .replacePathRegex (String.ofList value)))
  | replacePathRegex {value regex replacement : List Char}
      (isRule : IsRule content .replacePathRegex value) (isPair : IsPair value regex replacement) :
      StandsFor content
        (.ok (.replacePathRegex ⟨String.ofList regex, String.ofList replacement⟩))
  | malformed (visible : content ≠ []) (noRule : ∀ rule value, ¬IsRule content rule value) :
      StandsFor content (.error (.malformed (String.ofList content)))

/-! ### Bodies -/

private def isTrailing (character : Char) : Bool :=
  character = ' ' || character = ':'

private theorem body_eq (text : String) :
    body text = Text.trimStart (Text.dropTrailing isTrailing text.toList) := rfl

theorem isBody_body (text : String) : IsBody text.toList (body text) := by
  obtain ⟨after, isRun, cut⟩ := Text.exists_dropTrailing isTrailing text.toList
  rw [body_eq, Text.trimStart]
  generalize kept : Text.dropTrailing isTrailing text.toList = content at cut
  have cutStart := List.takeWhile_append_dropWhile (p := Text.isBlank) (l := content)
  refine
    { surrounded := ⟨content.takeWhile Text.isBlank, after, ?_, ?_, ?_⟩
      first := Text.head?_dropWhile Text.isBlank content
      last := ?_ }
  · exact fun _ member => List.mem_takeWhile_imp member
  · simpa [isTrailing] using isRun
  · rw [cutStart]
    exact cut
  · intro character isLast
    have lastKept : character ∈ content.getLast? := by
      rw [← cutStart, List.getLast?_append, Option.mem_def.1 isLast]
      rfl
    rw [← kept] at lastKept
    simpa [isTrailing] using Text.getLast?_dropTrailing isTrailing _ character lastKept

/-- A text has one body. -/
theorem IsBody.eq_body {text : String} {content : List Char}
    (isBody : IsBody text.toList content) : content = body text := by
  obtain ⟨before, after, beforeBlank, isRun, cut⟩ := isBody.surrounded
  have isRun : ∀ character ∈ after, isTrailing character = true := by simpa [isTrailing] using isRun
  rw [body_eq, cut, Text.dropTrailing_append_run isRun, Text.trimStart]
  by_cases nothing : content = []
  · -- what is left of the blanks in front is blank as well
    rw [nothing, List.append_nil, eq_comm, List.dropWhile_eq_nil_iff]
    intro character member
    obtain ⟨_, _, whole⟩ := Text.exists_dropTrailing isTrailing before
    exact beforeBlank character (whole ▸ List.mem_append_left _ member)
  · have lastKept : ∀ character ∈ (before ++ content).getLast?, isTrailing character = false := by
      intro character isLast
      rw [List.getLast?_append_of_ne_nil _ nothing] at isLast
      simpa [isTrailing] using isBody.last character isLast
    rw [Text.dropTrailing_eq_self lastKept, Text.dropWhile_run beforeBlank isBody.first]

/-! ### Rules -/

theorem isSpacing_iff {character : Char} :
    isSpacing character = true ↔ character ∈ spacingCharacters := by
  simp [isSpacing, spacingCharacters, or_assoc]

theorem isSpacing_eq_false_iff {character : Char} :
    isSpacing character = false ↔ character ∉ spacingCharacters := by
  rw [← isSpacing_iff, Bool.not_eq_true]

/-- No rule goes on with anything but spacing and a colon, so no name of a rule is taken for the
start of a longer one. -/
theorem rule?_append {rest : List Char} (stopped : rest.head? ≠ some 'R') (rule : ModifierRule) :
    rule? (rule.name.toList ++ rest) = some (rule, rest) := by
  cases rule with
  | addPrefix => simp [rule?, ModifierRule.name, Text.dropLeading?]
  | replacePathRegex => simp [rule?, ModifierRule.name, Text.dropLeading?]
  | replacePath =>
      cases rest with
      | nil => simp [rule?, ModifierRule.name, Text.dropLeading?]
      | cons character rest =>
          have differs : 'R' ≠ character := fun same => stopped (same ▸ rfl)
          simp [rule?, ModifierRule.name, Text.dropLeading?, differs]

theorem eq_append_of_rule? {text rest : List Char} {rule : ModifierRule}
    (named : rule? text = some (rule, rest)) : text = rule.name.toList ++ rest := by
  obtain ⟨found, -, cut⟩ := List.exists_of_findSome?_eq_some named
  obtain ⟨behind, starts, same⟩ := Option.map_eq_some_iff.1 cut
  obtain ⟨rfl, rfl⟩ := Prod.mk.inj same
  exact Text.dropLeading?_eq_some_iff.1 starts

theorem isRule_of_ruleAndValue? {text value : List Char} {rule : ModifierRule}
    (read : ruleAndValue? text = some (rule, value)) : IsRule text rule value := by
  unfold ruleAndValue? at read
  obtain ⟨⟨named, rest⟩, isNamed, read⟩ := Option.bind_eq_some_iff.1 read
  have allSpacing : ∀ character ∈ rest.takeWhile isSpacing, character ∈ spacingCharacters :=
    fun _ member => isSpacing_iff.1 (List.mem_takeWhile_imp member)
  rw [eq_append_of_rule? isNamed, ← List.takeWhile_append_dropWhile (p := isSpacing) (l := rest)]
  simp only at read
  split at read
  case h_1 ended =>
    obtain ⟨rfl, rfl⟩ := Prod.mk.inj (Option.some.inj read)
    rw [ended, List.append_nil]
    exact .bare _ allSpacing
  case h_2 behind colon =>
    obtain ⟨rfl, rfl⟩ := Prod.mk.inj (Option.some.inj read)
    rw [colon]
    exact .valued _ allSpacing behind
  case h_3 => cases read

private theorem head?_spacing_append {spacing rest : List Char}
    (allSpacing : ∀ character ∈ spacing, character ∈ spacingCharacters)
    (stopped : rest.head? ≠ some 'R') : (spacing ++ rest).head? ≠ some 'R' := by
  cases spacing with
  | nil => exact stopped
  | cons character spacing =>
      intro isHead
      obtain rfl : character = 'R' := Option.some.inj isHead
      exact absurd (allSpacing 'R' List.mem_cons_self) (by decide)

theorem ruleAndValue?_of_isRule {text value : List Char} {rule : ModifierRule}
    (isRule : IsRule text rule value) : ruleAndValue? text = some (rule, value) := by
  unfold ruleAndValue?
  cases isRule with
  | @bare spacing _ allSpacing =>
      have stopped : spacing.head? ≠ some 'R' := by
        simpa using @head?_spacing_append spacing [] allSpacing (by simp)
      have ended : spacing.dropWhile isSpacing = [] :=
        List.dropWhile_eq_nil_iff.2 fun character member =>
          isSpacing_iff.2 (allSpacing character member)
      rw [rule?_append stopped]
      simp [ended]
  | @valued spacing _ allSpacing rest =>
      have stopped := @head?_spacing_append spacing (':' :: rest) allSpacing (by simp)
      have atColon : (spacing ++ ':' :: rest).dropWhile isSpacing = ':' :: rest :=
        Text.dropWhile_run (fun character member => isSpacing_iff.2 (allSpacing character member))
          (by simp [isSpacing])
      rw [rule?_append stopped]
      simp [atColon]

theorem IsRule.ne_nil {text value : List Char} {rule : ModifierRule}
    (isRule : IsRule text rule value) : text ≠ [] := by
  have named : rule.name.toList ≠ [] := by cases rule <;> simp [ModifierRule.name]
  cases isRule <;> simp [named]

theorem IsRule.isTrimmed {text value : List Char} {rule : ModifierRule}
    (isRule : IsRule text rule value) : Text.IsTrimmed value := by
  cases isRule with
  | bare => exact ⟨by simp, by simp⟩
  | valued _ _ rest => exact Text.isTrimmed_trim rest

/-! ### A regex and its replacement -/

theorem endsRegex_eq_false_iff {character : Char} :
    endsRegex character = false ↔ character ≠ ' ' ∧ character ≠ '\t' := by
  simp [endsRegex]

theorem endsRegex_iff {character : Char} :
    endsRegex character = true ↔ character = ' ' ∨ character = '\t' := by
  simp [endsRegex]

theorem regexAndReplacement?_eq_none_iff {value : List Char} :
    regexAndReplacement? value = none ↔ ∀ character ∈ value, character ≠ ' ' ∧ character ≠ '\t' := by
  unfold regexAndReplacement?
  split
  case h_1 whole =>
    simpa [endsRegex_eq_false_iff] using List.dropWhile_eq_nil_iff.1 whole
  case h_2 separated =>
    refine iff_of_false (by simp) fun whole => separated ?_
    exact List.dropWhile_eq_nil_iff.2 fun character member => by
      simpa using endsRegex_eq_false_iff.2 (whole character member)

theorem isBlank_of_isSpacing {character : Char} (isSpacing : character ∈ spacingCharacters) :
    Text.isBlank character = true := by
  have allBlank : ∀ character ∈ spacingCharacters, Text.isBlank character = true := by
    simp [spacingCharacters, Text.isBlank]
  exact allBlank character isSpacing

/-- Since no blank stands at the ends of a value, something stands on both sides of a separator. -/
theorem isPair_of_cut {regex spacing rest : List Char} {separator : Char}
    (trimmed : Text.IsTrimmed (regex ++ separator :: (spacing ++ rest)))
    (whole : ∀ character ∈ regex, character ≠ ' ' ∧ character ≠ '\t')
    (separates : separator = ' ' ∨ separator = '\t')
    (allSpacing : ∀ character ∈ spacing, character ∈ spacingCharacters)
    (maximal : ∀ character ∈ rest.head?, character ∉ spacingCharacters) :
    IsPair (regex ++ separator :: (spacing ++ rest)) regex (Text.trim rest) := by
  have separatorBlank : Text.isBlank separator = true := by
    rcases separates with rfl | rfl <;> rfl
  refine .cut ?_ whole separates allSpacing maximal ?_
  · rintro rfl
    have notBlank := trimmed.first separator rfl
    rw [separatorBlank] at notBlank
    cases notBlank
  · intro nothing
    have allBlank : ∀ character ∈ separator :: (spacing ++ rest),
        Text.isBlank character = true := by
      intro character member
      rcases List.mem_cons.1 member with rfl | behind
      · exact separatorBlank
      · rcases List.mem_append.1 behind with inSpacing | inRest
        · exact isBlank_of_isSpacing (allSpacing character inSpacing)
        · exact Text.trim_eq_nil_iff.1 nothing character inRest
    have lastBlank := allBlank _ (List.getLast_mem (List.cons_ne_nil separator (spacing ++ rest)))
    have notBlank := trimmed.last ((separator :: (spacing ++ rest)).getLast (by simp)) (by
      rw [List.getLast?_append_of_ne_nil _ (by simp)]
      exact List.getLast?_eq_some_getLast (by simp))
    rw [lastBlank] at notBlank
    cases notBlank

theorem isPair_of_regexAndReplacement? {value regex replacement : List Char}
    (trimmed : Text.IsTrimmed value)
    (read : regexAndReplacement? value = some (regex, replacement)) :
    IsPair value regex replacement := by
  have cut := List.takeWhile_append_dropWhile (p := fun character => !endsRegex character)
    (l := value)
  have whole : ∀ character ∈ value.takeWhile fun character => !endsRegex character,
      character ≠ ' ' ∧ character ≠ '\t' := by
    intro character member
    exact endsRegex_eq_false_iff.1 (by simpa using List.mem_takeWhile_imp member)
  have stopped := Text.head?_dropWhile (fun character => !endsRegex character) value
  unfold regexAndReplacement? at read
  split at read
  case h_1 => cases read
  case h_2 separated =>
    obtain ⟨rfl, rfl⟩ := Prod.mk.inj (Option.some.inj read)
    obtain ⟨separator, behind, starts⟩ := List.exists_cons_of_ne_nil separated
    rw [starts] at cut stopped ⊢
    have separates : endsRegex separator = true := by simpa using stopped separator rfl
    have separatorSpacing : isSpacing separator = true := by
      rcases endsRegex_iff.1 separates with rfl | rfl <;> rfl
    rw [List.dropWhile_cons_of_pos separatorSpacing]
    have cutBehind := List.takeWhile_append_dropWhile (p := isSpacing) (l := behind)
    rw [← cutBehind] at cut
    rw [← cut] at trimmed
    have isPair := isPair_of_cut trimmed whole (endsRegex_iff.1 separates)
      (fun _ member => isSpacing_iff.1 (List.mem_takeWhile_imp member))
      fun character isHead => isSpacing_eq_false_iff.1 (Text.head?_dropWhile _ _ character isHead)
    rw [cut] at isPair
    exact isPair

theorem regexAndReplacement?_of_isPair {value regex replacement : List Char}
    (isPair : IsPair value regex replacement) :
    regexAndReplacement? value = some (regex, replacement) := by
  cases isPair with
  | @cut regex spacing rest separator _ whole separates allSpacing maximal _ =>
      have inRegex : ∀ character ∈ regex, (!endsRegex character) = true := by
        simpa [endsRegex_eq_false_iff] using whole
      have stopped : ∀ character ∈ (separator :: (spacing ++ rest)).head?,
          (!endsRegex character) = false := by
        simpa [endsRegex_iff] using separates
      have separatorSpacing : isSpacing separator = true := by
        rcases separates with rfl | rfl <;> rfl
      have atRest : (spacing ++ rest).dropWhile isSpacing = rest :=
        Text.dropWhile_run (fun character member => isSpacing_iff.2 (allSpacing character member))
          fun character isHead => isSpacing_eq_false_iff.2 (maximal character isHead)
      unfold regexAndReplacement?
      rw [Text.dropWhile_run inRegex stopped, Text.takeWhile_run inRegex stopped]
      simp [separatorSpacing, atRest]

/-! ### Agreement -/

/-- What is read from a body is what it stands for. -/
theorem standsFor_parse (text : String) : StandsFor (body text) (parse text) := by
  unfold parse
  by_cases nothing : body text = []
  · rw [nothing]
    exact .empty rfl
  · have visible : (body text).isEmpty = false := by simpa using nothing
    simp only [visible, Bool.false_eq_true, if_false]
    cases read : ruleAndValue? (body text) with
    | none =>
        refine .malformed nothing fun rule value isRule => ?_
        rw [ruleAndValue?_of_isRule isRule] at read
        cases read
    | some named =>
        obtain ⟨rule, value⟩ := named
        have isRule := isRule_of_ruleAndValue? read
        cases value with
        | nil => exact .missingValue isRule
        | cons first rest =>
            have valueVisible : first :: rest ≠ [] := List.cons_ne_nil first rest
            cases rule with
            | addPrefix => exact .addPrefix isRule valueVisible
            | replacePath => exact .replacePath isRule valueVisible
            | replacePathRegex =>
                simp only [List.isEmpty_cons, Bool.false_eq_true, if_false, kindOf]
                cases cut : regexAndReplacement? (first :: rest) with
                | none =>
                    exact .missingReplacement isRule valueVisible
                      (regexAndReplacement?_eq_none_iff.1 cut)
                | some pair =>
                    exact .replacePathRegex isRule
                      (isPair_of_regexAndReplacement? isRule.isTrimmed cut)

theorem parse_of_isRule {text : String} {rule : ModifierRule} {value : List Char}
    (isRule : IsRule (body text) rule value) :
    parse text = if value = [] then .error (.missingValue rule) else kindOf rule value := by
  have visible : (body text).isEmpty = false := by simpa using isRule.ne_nil
  unfold parse
  simp only [visible, ruleAndValue?_of_isRule isRule, Bool.false_eq_true, if_false,
    List.isEmpty_iff]

/-- A body stands for one thing, and that is what is read from it. -/
theorem parse_of_standsFor {text : String} {outcome : Except RequestModifierError MiddlewareKind}
    (standsFor : StandsFor (body text) outcome) : parse text = outcome := by
  cases standsFor with
  | empty nothing => simp [parse, nothing]
  | missingValue isRule => rw [parse_of_isRule isRule, if_pos rfl]
  | addPrefix isRule visible => rw [parse_of_isRule isRule, if_neg visible, kindOf]
  | replacePath isRule visible => rw [parse_of_isRule isRule, if_neg visible, kindOf]
  | missingReplacement isRule visible whole =>
      rw [parse_of_isRule isRule, if_neg visible, kindOf,
        regexAndReplacement?_eq_none_iff.2 whole]
  | @replacePathRegex value regex replacement isRule isPair =>
      have visible : value ≠ [] := by
        cases isPair
        simp
      rw [parse_of_isRule isRule, if_neg visible, kindOf, regexAndReplacement?_of_isPair isPair]
  | malformed visible noRule =>
      have read : ruleAndValue? (body text) = none := by
        rw [Option.eq_none_iff_forall_ne_some]
        exact fun named read => noRule _ _ (isRule_of_ruleAndValue? read)
      simp [parse, visible, read]

/-- A value with nothing to trim and no colon at its end is read back from behind its rule. -/
theorem parse_written (rule : ModifierRule) {value : String} (visible : value ≠ "")
    (trimmed : Text.IsTrimmed value.toList) (noColon : value.toList.getLast? ≠ some ':') :
    parse (rule.name ++ ": " ++ value) = kindOf rule value.toList := by
  have valueVisible : value.toList ≠ [] := by simpa using visible
  have spelled : (rule.name ++ ": " ++ value).toList =
      rule.name.toList ++ ([] ++ ':' :: (' ' :: value.toList)) := by simp
  have isBody : IsBody (rule.name ++ ": " ++ value).toList
      (rule.name ++ ": " ++ value).toList := by
    refine ⟨⟨[], [], by simp, by simp, by simp⟩, ?_, ?_⟩
    · rw [spelled]
      cases rule <;> simp [ModifierRule.name, Text.isBlank]
    · rw [String.toList_append, List.getLast?_append_of_ne_nil _ valueVisible]
      intro character isLast
      refine ⟨?_, fun isColon => noColon (isColon ▸ isLast)⟩
      rintro rfl
      exact absurd (trimmed.last ' ' isLast) (by decide)
  have isRule : IsRule (body (rule.name ++ ": " ++ value)) rule value.toList := by
    have valueKept : Text.trim (' ' :: value.toList) = value.toList := by
      have blanksDropped := @Text.trim_append [' '] [] (by simp [Text.isBlank]) (by simp) value.toList
      rw [List.append_nil, trimmed.trim_eq] at blanksDropped
      exact blanksDropped
    have valued := @IsRule.valued [] rule (by simp) (' ' :: value.toList)
    rw [valueKept, ← spelled] at valued
    rwa [← isBody.eq_body]
  rw [parse_of_isRule isRule, if_neg valueVisible]

/-- A regex without spaces and tabs and a replacement are read back from behind their rule. -/
theorem parse_written_pair {regex replacement : String} (regexVisible : regex ≠ "")
    (first : ∀ character ∈ regex.toList.head?, Text.isBlank character = false)
    (whole : ∀ character ∈ regex.toList, character ≠ ' ' ∧ character ≠ '\t')
    (visible : replacement ≠ "") (trimmed : Text.IsTrimmed replacement.toList)
    (noColon : replacement.toList.getLast? ≠ some ':') :
    parse ("ReplacePathRegex: " ++ regex ++ " " ++ replacement) =
      .ok (.replacePathRegex ⟨regex, replacement⟩) := by
  have regexCharacters : regex.toList ≠ [] := by simpa using regexVisible
  have replacementCharacters : replacement.toList ≠ [] := by simpa using visible
  have spelled : (regex ++ " " ++ replacement).toList =
      regex.toList ++ ' ' :: ([] ++ replacement.toList) := by simp
  have sameLast : (regex ++ " " ++ replacement).toList.getLast? = replacement.toList.getLast? := by
    rw [String.toList_append, List.getLast?_append_of_ne_nil _ replacementCharacters]
  have sameFirst : (regex ++ " " ++ replacement).toList.head? = regex.toList.head? := by
    rw [spelled, List.head?_append_of_ne_nil _ regexCharacters]
  have pairTrimmed : Text.IsTrimmed (regex ++ " " ++ replacement).toList := by
    refine ⟨?_, ?_⟩
    · rwa [sameFirst]
    · rw [sameLast]
      exact trimmed.last
  have isPair : IsPair (regex ++ " " ++ replacement).toList regex.toList replacement.toList := by
    have maximal : ∀ character ∈ replacement.toList.head?, character ∉ spacingCharacters := by
      intro character isHead isSpacing
      have notBlank := trimmed.first character isHead
      rw [isBlank_of_isSpacing isSpacing] at notBlank
      cases notBlank
    have replaces : Text.trim replacement.toList ≠ [] := by rwa [trimmed.trim_eq]
    have cut := @IsPair.cut regex.toList [] replacement.toList ' ' regexCharacters whole (.inl rfl)
      (by simp) maximal replaces
    rwa [trimmed.trim_eq, ← spelled] at cut
  have sameText : "ReplacePathRegex: " ++ regex ++ " " ++ replacement =
      ModifierRule.replacePathRegex.name ++ ": " ++ (regex ++ " " ++ replacement) := by
    apply String.toList_injective
    simp [ModifierRule.name]
  have pairVisible : regex ++ " " ++ replacement ≠ "" := by
    intro nothing
    have noCharacters := congrArg String.toList nothing
    rw [spelled] at noCharacters
    simp at noCharacters
  rw [sameText, parse_written .replacePathRegex pairVisible pairTrimmed (by rwa [sameLast]), kindOf,
    regexAndReplacement?_of_isPair isPair]
  simp

/-- Every text has one body, which stands for exactly one middleware or fault, and that is what is
read from the text. What is written for a value is read back. -/
theorem parse_follows_grammar :
    (∀ text : String, ∃! content, IsBody text.toList content) ∧
    (∀ (text : String) (content : List Char) (outcome : Except RequestModifierError MiddlewareKind),
      IsBody text.toList content → (parse text = outcome ↔ StandsFor content outcome)) ∧
    ∀ value : String, value ≠ "" → Text.IsTrimmed value.toList →
      value.toList.getLast? ≠ some ':' →
      parse ("AddPrefix: " ++ value) = .ok (.addPrefix value) ∧
      parse ("ReplacePath: " ++ value) = .ok (.replacePath value) ∧
      ∀ regex : String, regex ≠ "" →
        (∀ character ∈ regex.toList.head?, Text.isBlank character = false) →
        (∀ character ∈ regex.toList, character ≠ ' ' ∧ character ≠ '\t') →
        parse ("ReplacePathRegex: " ++ regex ++ " " ++ value) =
          .ok (.replacePathRegex ⟨regex, value⟩) := by
  refine ⟨fun text => ?_, fun text content outcome isBody => ?_,
    fun value visible trimmed noColon => ⟨?_, ?_, ?_⟩⟩
  · exact ⟨body text, isBody_body text, fun content isBody => isBody.eq_body⟩
  · obtain rfl := isBody.eq_body
    refine ⟨?_, parse_of_standsFor⟩
    rintro rfl
    exact standsFor_parse text
  · have written := parse_written .addPrefix visible trimmed noColon
    rwa [kindOf, String.ofList_toList] at written
  · have written := parse_written .replacePath visible trimmed noColon
    rwa [kindOf, String.ofList_toList] at written
  · exact fun regex regexVisible first whole =>
      parse_written_pair regexVisible first whole visible trimmed noColon

/-- A modifier with a colon in its regex and spacing around everything. -/
theorem parse_follows_grammar_versioned :
    parse "  ReplacePathRegex : ^/v1:(.*)  /v2:$1 : " =
        .ok (.replacePathRegex ⟨"^/v1:(.*)", "/v2:$1"⟩) ∧
      parse "AddPrefix: /v2:$1" = .ok (.addPrefix "/v2:$1") ∧
      parse "ReplacePathRegex: ^/v1:(.*) /v2:$1" =
        .ok (.replacePathRegex ⟨"^/v1:(.*)", "/v2:$1"⟩) := by
  obtain ⟨-, classified, written⟩ := parse_follows_grammar
  obtain ⟨addPrefix, -, pair⟩ := written "/v2:$1" (by decide) (by decide) (by decide)
  refine ⟨?_, addPrefix, pair "^/v1:(.*)" (by decide) (by simp [Text.isBlank]) (by simp)⟩
  refine (classified _ "ReplacePathRegex : ^/v1:(.*)  /v2:$1".toList _ ?_).2 ?_
  · exact ⟨⟨"  ".toList, " : ".toList, by simp [Text.isBlank], by simp, by decide⟩,
      by simp [Text.isBlank], by simp⟩
  · have isRule := @IsRule.valued [' '] .replacePathRegex (by simp [spacingCharacters])
      " ^/v1:(.*)  /v2:$1".toList
    have isPair := @IsPair.cut "^/v1:(.*)".toList [' '] "/v2:$1".toList ' ' (by decide) (by simp)
      (by decide) (by simp [spacingCharacters]) (by simp [spacingCharacters]) (by decide)
    exact .replacePathRegex isRule isPair

end TraefikUpgrade.RequestModifier
