/-
# What filters match

A text is a filter where each of its levels may stand in its place, and otherwise the leftmost level that
may not says what is wrong.  A filter that ends in `#` looks at the levels before it and at no others, so
that it matches a topic exactly where these levels admit the first levels of the topic.  Where none of them
is a wildcard, the topic begins with the text of the filter.
-/

import DeviceGateway.Proofs.Text.Split
import DeviceGateway.Topic.Filter
import Mathlib.Data.List.Forall2

namespace DeviceGateway.Topic

/-! ## Levels -/

/-- The topic that has some levels. -/
def ofLevels (levels : List String) : String :=
  String.ofList (Text.joinWith '/' (levels.map String.toList))

theorem slash_not_mem_of_mem_levels {topic level : String} (member : level ∈ levels topic) :
    '/' ∉ level.toList := by
  obtain ⟨piece, cut, rfl⟩ := List.mem_map.1 member
  rw [String.toList_ofList]
  exact Text.not_mem_of_mem_splitAll cut

theorem toList_levels (topic : String) :
    (levels topic).map String.toList = Text.splitAll '/' topic.toList := by
  simp [levels, Function.comp_def]

theorem levels_ofLevels {first : List String} (nonempty : first ≠ [])
    (undivided : ∀ level ∈ first, '/' ∉ level.toList) : levels (ofLevels first) = first := by
  have cut : Text.splitAll '/' (Text.joinWith '/' (first.map String.toList)) =
      first.map String.toList := by
    apply Text.splitAll_joinWith (by simpa using nonempty)
    simpa using undivided
  simp [levels, ofLevels, cut, Function.comp_def]

/-- A topic begins with some levels exactly where it is these levels alone or with something behind a
slash. -/
theorem isPrefix_levels_iff {first : List String} (nonempty : first ≠ [])
    (undivided : ∀ level ∈ first, '/' ∉ level.toList) (topic : String) :
    first <+: levels topic ↔ topic = ofLevels first ∨ ∃ rest, topic = ofLevels first ++ "/" ++ rest := by
  have injective : Function.Injective String.toList := fun _ _ same => String.toList_inj.1 same
  have characters : first <+: levels topic ↔
      first.map String.toList <+: Text.splitAll '/' topic.toList := by
    rw [← toList_levels, List.prefix_map_iff_of_injective injective]
  rw [characters, Text.isPrefix_splitAll_iff (by simpa using nonempty) (by simpa using undivided)]
  constructor
  · rintro (alone | ⟨rest, more⟩)
    · exact .inl (by rw [ofLevels, ← alone, String.ofList_toList])
    · refine .inr ⟨String.ofList rest, String.toList_inj.1 ?_⟩
      simp [ofLevels, more]
  · rintro (rfl | ⟨rest, rfl⟩)
    · exact .inl (by simp [ofLevels])
    · exact .inr ⟨rest.toList, by simp [ofLevels]⟩

namespace Filter

/-! ## Compiling -/

/-- What a level of a filter means. -/
def levelOf (level : String) : Level :=
  if level = "+" then .single else if level = "#" then .multi else .literal level

/-- Whether a level may stand where it is followed by others. -/
def MayPrecede (level : String) (rest : List String) : Prop :=
  level = "+" ∨ level = "#" ∧ rest = [] ∨ hasWildcard level = false

/-- Each level may stand in its place just if the first one may and so may those that follow. -/
theorem forall_mayPrecede_cons {level : String} {rest : List String} :
    (∀ first other more, level :: rest = first ++ other :: more → MayPrecede other more) ↔
      MayPrecede level rest ∧
        ∀ first other more, rest = first ++ other :: more → MayPrecede other more := by
  constructor
  · intro all
    exact ⟨all [] level rest rfl, fun first other more same => all (level :: first) other more
      (congrArg (level :: ·) same)⟩
  · rintro ⟨here, later⟩ first other more same
    cases first with
    | nil =>
      obtain ⟨rfl, rfl⟩ := List.cons.inj same
      exact here
    | cons head first => exact later first other more (List.cons.inj same).2

/-- A level that is passed over stands for itself, and the others follow. -/
theorem map_compileLevels_eq_ok_iff {raw level : String} {rest : List String} {compiled : List Level}
    (may : MayPrecede level rest)
    (others : ∀ {compiled}, compileLevels raw rest = .ok compiled ↔ compiled = rest.map levelOf ∧
      ∀ first other more, rest = first ++ other :: more → MayPrecede other more) :
    (compileLevels raw rest).map (levelOf level :: ·) = .ok compiled ↔
      compiled = (level :: rest).map levelOf ∧
        ∀ first other more, level :: rest = first ++ other :: more → MayPrecede other more := by
  rw [forall_mayPrecede_cons, List.map_cons]
  cases tail : compileLevels raw rest with
  | error fault =>
    constructor
    · exact nofun
    · rintro ⟨_, _, later⟩
      exact nomatch tail.symm.trans (others.2 ⟨rfl, later⟩)
  | ok levels =>
    obtain ⟨rfl, later⟩ := others.1 tail
    constructor
    · rintro ⟨⟩
      exact ⟨rfl, may, later⟩
    · rintro ⟨rfl, _⟩
      rfl

/-- Levels are a filter exactly where each of them may stand in its place. -/
theorem compileLevels_eq_ok_iff {raw : String} {levels : List String} {compiled : List Level} :
    compileLevels raw levels = .ok compiled ↔ compiled = levels.map levelOf ∧
      ∀ first level rest, levels = first ++ level :: rest → MayPrecede level rest := by
  induction levels generalizing compiled with
  | nil => simp [compileLevels, eq_comm]
  | cons level rest ih =>
    unfold compileLevels
    split
    case isTrue single =>
      rw [← map_compileLevels_eq_ok_iff (.inl single) ih, levelOf, if_pos single]
    case isFalse other =>
      split
      case isTrue multi =>
        subst multi
        rw [forall_mayPrecede_cons]
        cases rest with
        | nil =>
          constructor
          · rintro ⟨⟩
            exact ⟨rfl, .inr (.inl ⟨rfl, rfl⟩), by simp⟩
          · rintro ⟨rfl, _⟩
            rfl
        | cons next rest =>
          constructor
          · exact nofun
          · rintro ⟨_, here, _⟩
            rcases here with same | ⟨_, last⟩ | plain
            · exact absurd same other
            · cases last
            · cases plain
      case isFalse plain =>
        split
        case isTrue mixed =>
          rw [forall_mayPrecede_cons]
          constructor
          · exact nofun
          · rintro ⟨_, here, _⟩
            rcases here with same | ⟨same, _⟩ | free
            · exact absurd same other
            · exact absurd same plain
            · exact nomatch mixed.symm.trans free
        case isFalse free =>
          have may : MayPrecede level rest := .inr (.inr (by simpa using free))
          rw [← map_compileLevels_eq_ok_iff may ih, levelOf, if_neg other, if_neg plain]

/-- A level without a wildcard. -/
def Plain (level : String) : Prop := '+' ∉ level.toList ∧ '#' ∉ level.toList

theorem hasWildcard_eq_false_iff {level : String} : hasWildcard level = false ↔ Plain level := by
  simp only [hasWildcard, Plain, List.any_eq_false, Bool.or_eq_true, beq_iff_eq, not_or]
  constructor
  · exact fun all => ⟨fun single => (all _ single).1 rfl, fun multi => (all _ multi).2 rfl⟩
  · rintro ⟨single, multi⟩ c member
    exact ⟨fun same => single (same ▸ member), fun same => multi (same ▸ member)⟩

theorem mayPrecede_iff {level : String} {rest : List String} :
    MayPrecede level rest ↔ level = "+" ∨ level = "#" ∧ rest = [] ∨ Plain level := by
  rw [MayPrecede, hasWildcard_eq_false_iff]

/-- The level `#` stands at the end. -/
theorem eq_nil_of_mayPrecede {rest : List String} (may : MayPrecede "#" rest) : rest = [] := by
  rcases may with same | ⟨_, last⟩ | plain
  · exact absurd same (by decide)
  · exact last
  · exact absurd plain (by decide)

/-- The fault of a level that may not stand in its place. -/
def offence (raw level : String) : FilterFault :=
  if level = "#" then .multiLevelNotLast raw else .mixedWildcard raw

/-- Whether a fault is that of the leftmost level that may not stand in its place. -/
def Offends (raw : String) (levels : List String) (fault : FilterFault) : Prop :=
  ∃ first level rest, levels = first ++ level :: rest ∧
    (∀ earlier ∈ first, earlier = "+" ∨ Plain earlier) ∧
      ¬ MayPrecede level rest ∧ fault = offence raw level

/-- A level that may stand anywhere is passed over. -/
theorem offends_cons_iff_of_passes {raw level : String} {rest : List String} {fault : FilterFault}
    (passes : level = "+" ∨ Plain level) : Offends raw (level :: rest) fault ↔ Offends raw rest fault := by
  constructor
  · rintro ⟨first, other, more, same, earlier, may, rfl⟩
    cases first with
    | nil =>
      obtain ⟨rfl, rfl⟩ := List.cons.inj same
      refine absurd (mayPrecede_iff.2 ?_) may
      exact passes.imp_right .inr
    | cons head first =>
      obtain ⟨rfl, rfl⟩ := List.cons.inj same
      exact ⟨first, other, more, rfl, (List.forall_mem_cons.1 earlier).2, may, rfl⟩
  · rintro ⟨first, other, more, rfl, earlier, may, rfl⟩
    exact ⟨level :: first, other, more, rfl, List.forall_mem_cons.2 ⟨passes, earlier⟩, may, rfl⟩

/-- At any other level the search ends. -/
theorem offends_cons_iff_of_stays {raw level : String} {rest : List String} {fault : FilterFault}
    (stays : ¬ (level = "+" ∨ Plain level)) :
    Offends raw (level :: rest) fault ↔ ¬ MayPrecede level rest ∧ fault = offence raw level := by
  constructor
  · rintro ⟨first, other, more, same, earlier, may, rfl⟩
    cases first with
    | nil =>
      obtain ⟨rfl, rfl⟩ := List.cons.inj same
      exact ⟨may, rfl⟩
    | cons head first =>
      obtain ⟨rfl, rfl⟩ := List.cons.inj same
      exact absurd (List.forall_mem_cons.1 earlier).1 stays
  · rintro ⟨may, rfl⟩
    exact ⟨[], level, rest, rfl, by simp, may, rfl⟩

theorem compileLevels_eq_error_iff {raw : String} {levels : List String} {fault : FilterFault} :
    compileLevels raw levels = .error fault ↔ Offends raw levels fault := by
  induction levels with
  | nil =>
    constructor
    · exact nofun
    · rintro ⟨first, level, rest, same, _⟩
      cases first <;> cases same
  | cons level rest ih =>
    have continues : ∀ meaning, (compileLevels raw rest).map (meaning :: ·) = .error fault ↔
        compileLevels raw rest = .error fault := by
      intro meaning
      cases compileLevels raw rest <;> simp [Except.map]
    unfold compileLevels
    split
    case isTrue single => rw [continues, ih, offends_cons_iff_of_passes (.inl single)]
    case isFalse other =>
      split
      case isTrue multi =>
        subst multi
        rw [offends_cons_iff_of_stays (by simp [Plain])]
        cases rest with
        | nil => simp [MayPrecede]
        | cons next rest =>
          have stuck : ¬ MayPrecede "#" (next :: rest) := fun may => nomatch eq_nil_of_mayPrecede may
          simp [stuck, offence, eq_comm]
      case isFalse literal =>
        split
        case isTrue mixed =>
          have wild : ¬ Plain level := by
            rw [← hasWildcard_eq_false_iff, mixed]
            decide
          have stuck : ¬ MayPrecede level rest := by simp [mayPrecede_iff, other, literal, wild]
          rw [offends_cons_iff_of_stays (by simp [other, wild])]
          simp [stuck, offence, literal, eq_comm]
        case isFalse free =>
          have plain : Plain level := hasWildcard_eq_false_iff.1 (by simpa using free)
          rw [continues, ih, offends_cons_iff_of_passes (.inr plain)]

/-- A text is a filter exactly where it is not empty and each of its levels may stand in its place. -/
theorem compile_eq_ok_iff {raw : String} {filter : Filter} : compile raw = .ok filter ↔
    raw ≠ "" ∧ filter = ⟨raw, (Topic.levels raw).map levelOf⟩ ∧
      ∀ first level rest, Topic.levels raw = first ++ level :: rest → MayPrecede level rest := by
  unfold compile
  split
  case isTrue empty => simp [String.isEmpty_iff.1 empty]
  case isFalse filled =>
    have nonempty : raw ≠ "" := fun same => filled (String.isEmpty_iff.2 same)
    have mapped : (compileLevels raw (Topic.levels raw)).map (fun levels => (⟨raw, levels⟩ : Filter)) =
        .ok filter ↔ ∃ levels, compileLevels raw (Topic.levels raw) = .ok levels ∧ ⟨raw, levels⟩ = filter := by
      cases compileLevels raw (Topic.levels raw) <;> simp [Except.map]
    rw [mapped]
    constructor
    · rintro ⟨levels, compiled, rfl⟩
      obtain ⟨rfl, may⟩ := compileLevels_eq_ok_iff.1 compiled
      exact ⟨nonempty, rfl, may⟩
    · rintro ⟨_, rfl, may⟩
      exact ⟨_, compileLevels_eq_ok_iff.2 ⟨rfl, may⟩, rfl⟩

/-- Any other text has a fault: the empty one its own, and every other one that of its leftmost level that
may not stand in its place. -/
theorem compile_eq_error_iff {raw : String} {fault : FilterFault} : compile raw = .error fault ↔
    raw = "" ∧ fault = .empty ∨ raw ≠ "" ∧ Offends raw (Topic.levels raw) fault := by
  unfold compile
  split
  case isTrue empty => simp [String.isEmpty_iff.1 empty, eq_comm]
  case isFalse filled =>
    have nonempty : raw ≠ "" := fun same => filled (String.isEmpty_iff.2 same)
    rw [← compileLevels_eq_error_iff]
    cases compileLevels raw (Topic.levels raw) <;> simp [Except.map, nonempty]

/-! ## Matching -/

/-- Whether a level of a filter admits a level of a topic in its place. -/
def Admits : Level → String → Prop
  | .literal text, level => level = text
  | .single, _ => True
  | .multi, _ => False

/-- A filter that ends in `#` matches where the levels before admit the first levels of the topic. -/
theorem accepts_append_multi_iff {fixed : List Level} (plain : .multi ∉ fixed) (topic : List String) :
    accepts (fixed ++ [.multi]) topic = true ↔
      ∃ first, List.Forall₂ Admits fixed first ∧ first <+: topic := by
  induction fixed generalizing topic with
  | nil =>
    constructor
    · exact fun _ => ⟨[], .nil, List.nil_prefix⟩
    · exact fun _ => rfl
  | cons level rest ih =>
    rw [List.mem_cons, not_or] at plain
    have later := ih plain.2
    cases topic with
    | nil =>
      constructor
      · intro accepted
        cases level <;> cases accepted
        exact absurd rfl plain.1
      · rintro ⟨first, admits, within⟩
        obtain rfl := List.prefix_nil.1 within
        cases admits
    | cons name more =>
      have step : accepts (level :: rest ++ [.multi]) (name :: more) = true ↔
          Admits level name ∧ accepts (rest ++ [.multi]) more = true := by
        cases level with
        | literal text => simp [accepts, Admits]
        | single => simp [accepts, Admits]
        | multi => exact absurd rfl plain.1
      rw [step, later]
      constructor
      · rintro ⟨one, first, admits, within⟩
        exact ⟨name :: first, .cons one admits, (List.prefix_cons_inj name).2 within⟩
      · rintro ⟨first, admits, within⟩
        cases admits with
        | cons one admits =>
          obtain ⟨rfl, behind⟩ := List.cons_prefix_cons.1 within
          exact ⟨one, _, admits, behind⟩

theorem forall₂_admits_literals_iff {fixed first : List String} :
    List.Forall₂ Admits (fixed.map .literal) first ↔ first = fixed := by
  induction fixed generalizing first with
  | nil => simp
  | cons text rest ih => simp [List.forall₂_cons_left_iff, ih, Admits]

/-- Where no level before `#` is a wildcard, a topic is matched if it begins with these levels. -/
theorem accepts_literals_multi_iff (fixed topic : List String) :
    accepts (fixed.map .literal ++ [.multi]) topic = true ↔ fixed <+: topic := by
  have plain : Level.multi ∉ fixed.map .literal := by simp
  simp only [accepts_append_multi_iff plain, forall₂_admits_literals_iff, exists_eq_left]

/-- Whether the levels of a topic are those of a filter as far as both go. -/
def Agree (fixed names : List String) : Prop :=
  ∀ (place : Nat) (level name : String), fixed[place]? = some level → names[place]? = some name →
    level = "+" ∨ level = name

theorem agree_cons_iff {level name : String} {fixed names : List String} :
    Agree (level :: fixed) (name :: names) ↔ (level = "+" ∨ level = name) ∧ Agree fixed names := by
  constructor
  · exact fun agree => ⟨agree 0 level name rfl rfl, fun place => agree (place + 1)⟩
  · rintro ⟨first, later⟩ place one other here there
    cases place with
    | zero =>
      obtain rfl := Option.some.inj here
      obtain rfl := Option.some.inj there
      exact first
    | succ place => exact later place one other here there

/-- The levels before the last one are compared with as many levels of the topic, and what comes behind
them with the others. -/
theorem accepts_map_append_iff {fixed : List String} (plain : "#" ∉ fixed) (behind : List Level)
    (names : List String) : accepts (fixed.map levelOf ++ behind) names = true ↔
      fixed.length ≤ names.length ∧ Agree fixed names ∧
        accepts behind (names.drop fixed.length) = true := by
  induction fixed generalizing names with
  | nil => simp [Agree]
  | cons level fixed ih =>
    rw [List.mem_cons, not_or] at plain
    cases names with
    | nil =>
      have refused : accepts (levelOf level :: (fixed.map levelOf ++ behind)) [] = false := by
        rw [levelOf, if_neg (Ne.symm plain.1)]
        split <;> rfl
      simp [refused]
    | cons name names =>
      have step : accepts ((level :: fixed).map levelOf ++ behind) (name :: names) = true ↔
          (level = "+" ∨ level = name) ∧ accepts (fixed.map levelOf ++ behind) names = true := by
        rw [List.map_cons, levelOf, if_neg (Ne.symm plain.1)]
        split
        case isTrue single => simp [accepts, single]
        case isFalse literal => simp [accepts, literal, @eq_comm _ name]
      rw [step, ih plain.2, agree_cons_iff, List.length_cons, List.length_cons, List.drop_succ_cons,
        Nat.succ_le_succ_iff]
      tauto

end Filter

end DeviceGateway.Topic
