import LinearProgram.Proofs.Algebraic.Sections

namespace LinearProgram

variable {F : Type} [Scalar F] [Literal F]

def Heading.Follows (heading : Heading) (earlier : List Heading) : Prop :=
  ∀ other ∈ earlier, other.opens.rank < heading.opens.rank

/-- No section comes before that of the objective. -/
theorem Heading.Follows.eq_nil {sense : Sense} {earlier : List Heading}
    (follows : (Heading.objective sense).Follows earlier) : earlier = [] := by
  apply List.eq_nil_iff_forall_not_mem.mpr
  intro other member
  exact absurd (follows other member) (Nat.not_lt_zero _)

/-- What the lines read so far say in a draft of a program: `contents` are the tokens of each line
of a section. -/
structure Draft.Holds (headings : List Heading) (contents : Option Section → List (List Token))
    (draft : Draft F) : Prop where
  reached : draft.reached = headings.getLast?.map Heading.opens
  ordered : headings.Pairwise fun earlier later => earlier.opens.rank < later.opens.rank
  sense : headings.filterMap Heading.sense? = (draft.objective.map Prod.fst).toList
  objective : (draft.objective.elim [] fun objective => objective.2.2) =
    (contents (some .objective)).flatten
  constraints : List.Forall₂ (fun tokens constraint => Comparison.read tokens = .ok constraint)
    (contents (some .constraints)) draft.constraints.toList
  bounds : List.Forall₂ (fun tokens bound => Comparison.read tokens = .ok bound)
    (contents (some .bounds)) draft.bounds.toList

def ContentFits (F : Type) [Scalar F] [Literal F] : Option Section → List Token → Prop
  | some .objective, _ => True
  | some .constraints, tokens | some .bounds, tokens =>
    ∃ comparison : Comparison F, Comparison.read tokens = .ok comparison
  | some .ending, _ | none, _ => False

namespace Draft

variable {headings : List Heading} {contents : Option Section → List (List Token)}
  {draft next : Draft F} {location : Location}

theorem Holds.objective_eq_none (held : draft.Holds headings contents)
    (unopened : headings = []) : draft.objective = none := by
  simpa [unopened] using held.sense.symm

theorem Holds.follows_iff (held : draft.Holds headings contents) (heading : Heading) :
    heading.Follows headings ↔
      ¬ draft.reached.any fun reached => heading.opens.rank ≤ reached.rank := by
  rw [held.reached]
  rcases List.eq_nil_or_concat' headings with rfl | ⟨front, last, rfl⟩
  · simp [Heading.Follows]
  · have before := (List.pairwise_append.mp held.ordered).2.2
    simp only [Heading.Follows, List.getLast?_append, List.getLast?_singleton, Option.some_or,
      Option.map_some, Option.any_some, decide_eq_true_eq, not_le, List.forall_mem_append,
      List.forall_mem_singleton, and_iff_right_iff_imp]
    intro later other member
    have earlier := before other member last (List.mem_singleton_self last)
    omega

theorem Holds.enter_succeeds_iff (held : draft.Holds headings contents) (heading : Heading) :
    (∃ next, draft.enter heading location = .ok next) ↔ heading.Follows headings := by
  rw [held.follows_iff, enter]
  split
  · rename_i late
    simp [late]
  · rename_i inOrder
    cases heading <;> simp [inOrder]

theorem Holds.enter (held : draft.Holds headings contents) {heading : Heading}
    (entered : draft.enter heading location = .ok next) :
    next.Holds (headings ++ [heading]) contents := by
  have follows := (held.enter_succeeds_iff heading).mp ⟨next, entered⟩
  have ordered : (headings ++ [heading]).Pairwise
      fun earlier later => earlier.opens.rank < later.opens.rank := by
    rw [List.pairwise_append]
    exact ⟨held.ordered, List.pairwise_singleton _ _, by simpa [Heading.Follows] using follows⟩
  have inOrder := (held.follows_iff heading).mp follows
  simp only [Draft.enter, inOrder, Bool.false_eq_true, ↓reduceIte] at entered
  cases heading with
  | objective sense =>
    cases entered
    obtain rfl := follows.eq_nil
    have unset := held.objective_eq_none rfl
    have unread := held.objective
    rw [unset] at unread
    exact ⟨by simp, ordered, by simp [Heading.sense?], unread, held.constraints, held.bounds⟩
  | constraints | bounds | ending =>
    cases entered
    refine ⟨by simp, ordered, ?_, held.objective, held.constraints, held.bounds⟩
    rw [List.filterMap_append, held.sense]
    exact List.append_nil _

theorem Holds.objective_isSome (held : draft.Holds headings contents)
    (inside : draft.reached = some .objective) : draft.objective.isSome := by
  rw [held.reached] at inside
  obtain ⟨heading, last, opens⟩ := Option.map_eq_some_iff.mp inside
  obtain ⟨front, rfl⟩ := List.getLast?_eq_some_iff.mp last
  cases heading with
  | objective sense =>
    cases unset : draft.objective with
    | none => simpa [Heading.sense?, unset] using held.sense
    | some _ => rfl
  | constraints | bounds | ending => cases opens

theorem Holds.absorb_succeeds_iff (held : draft.Holds headings contents) (tokens : List Token) :
    (∃ next, draft.absorb tokens location = .ok next) ↔ ContentFits F draft.reached tokens := by
  cases reached : draft.reached with
  | none => simp [absorb, reached, ContentFits]
  | some place =>
    cases place with
    | objective =>
      obtain ⟨objective, set⟩ := Option.isSome_iff_exists.mp (held.objective_isSome reached)
      simp [absorb, reached, set, ContentFits]
    | constraints | bounds =>
      cases read : Comparison.read (F := F) tokens <;>
        simp [absorb, reached, ContentFits, readLine, read, Except.mapError, bind, Except.bind]
    | ending => simp [absorb, reached, ContentFits]

theorem Holds.absorb (held : draft.Holds headings contents) {tokens : List Token}
    (absorbed : draft.absorb tokens location = .ok next) :
    next.Holds headings fun place =>
      contents place ++ if headings.getLast?.map Heading.opens = place then [tokens] else [] := by
  rw [← held.reached]
  cases reached : draft.reached with
  | none => simp only [Draft.absorb, reached] at absorbed; cases absorbed
  | some place =>
    have here := held.reached
    rw [reached] at here
    cases place with
    | ending => simp only [Draft.absorb, reached] at absorbed; cases absorbed
    | objective =>
      obtain ⟨_, set⟩ := Option.isSome_iff_exists.mp (held.objective_isSome reached)
      simp only [Draft.absorb, reached, set] at absorbed
      cases absorbed
      have sense := held.sense
      have objective := held.objective
      simp only [set] at sense objective
      exact ⟨here, held.ordered, sense, by simp [← objective],
        by simpa using held.constraints, by simpa using held.bounds⟩
    | constraints =>
      simp only [Draft.absorb, reached] at absorbed
      obtain ⟨constraint, read, made⟩ := bind_eq_ok.mp absorbed
      cases made
      have constraints := forall₂_concat held.constraints (mapError_eq_ok.mp read)
      exact ⟨here, held.ordered, held.sense, by simpa using held.objective,
        by simpa using constraints, by simpa using held.bounds⟩
    | bounds =>
      simp only [Draft.absorb, reached] at absorbed
      obtain ⟨bound, read, made⟩ := bind_eq_ok.mp absorbed
      cases made
      have bounds := forall₂_concat held.bounds (mapError_eq_ok.mp read)
      exact ⟨here, held.ordered, held.sense, by simpa using held.objective,
        by simpa using held.constraints, by simpa using bounds⟩

def start (draft : Draft F) (heading : Option Heading) (location : Location) :
    Except ParseError (Draft F) :=
  match heading with
  | some heading => draft.enter heading location
  | none => .ok draft

theorem Holds.start_succeeds_iff (held : draft.Holds headings contents)
    (heading : Option Heading) :
    (∃ next, draft.start heading location = .ok next) ↔
      ∀ opened, heading = some opened → opened.Follows headings := by
  cases heading with
  | none => simp [Draft.start]
  | some heading => simpa [Draft.start] using held.enter_succeeds_iff heading

theorem Holds.start (held : draft.Holds headings contents) {heading : Option Heading}
    (started : draft.start heading location = .ok next) :
    next.Holds (headings ++ heading.toList) contents := by
  cases heading with
  | none =>
    cases started
    simpa using held
  | some heading => exact held.enter started

theorem addLine_eq (draft : Draft F) (location : Location) :
    draft.addLine location = (draft.start location.headed.1 location >>= fun started =>
      (Token.scan location.headed.2).mapError (·.located location) >>= fun tokens =>
        if tokens = [] then .ok started else started.absorb tokens location) := by
  rw [addLine, Location.headed]
  rcases Heading.split location.text.toList with ⟨heading, content⟩
  cases heading <;> rfl

theorem addLine_eq_ok {draft next : Draft F} {location : Location} :
    draft.addLine location = .ok next ↔ ∃ started tokens,
      draft.start location.headed.1 location = .ok started ∧
        Token.scan location.headed.2 = .ok tokens ∧
          (if tokens = [] then .ok started else started.absorb tokens location) = .ok next := by
  simp only [addLine_eq, bind_eq_ok, mapError_eq_ok, exists_and_left]

end Draft

def LineFits (F : Type) [Scalar F] [Literal F] (before : List HeadedLine) (line : HeadedLine) :
    Prop :=
  (∀ heading, line.1 = some heading → heading.Follows (headings before)) ∧
    ∃ tokens, Token.scan line.2 = .ok tokens ∧
      (tokens ≠ [] → ContentFits F (sectionAfter (before ++ [line])) tokens)

namespace Draft

variable {lines : List HeadedLine} {draft next : Draft F} {location : Location}

def Reads (lines : List HeadedLine) (draft : Draft F) : Prop :=
  draft.Holds (headings lines) (tokenLines lines)

theorem Reads.start (held : draft.Reads lines)
    (started : draft.start location.headed.1 location = .ok next) :
    next.Holds (headings (lines ++ [location.headed])) (tokenLines lines) := by
  rw [headings_concat]
  exact Holds.start held started

theorem Reads.addLine (held : draft.Reads lines) (added : draft.addLine location = .ok next) :
    next.Reads (lines ++ [location.headed]) := by
  obtain ⟨started, tokens, opened, scanned, absorbed⟩ := addLine_eq_ok.mp added
  have inside := held.start opened
  split at absorbed
  · rename_i empty
    cases absorbed
    rw [Reads, tokenLines_concat_nil (empty ▸ scanned)]
    exact inside
  · rename_i nonempty
    rw [Reads, tokenLines_concat scanned nonempty]
    exact inside.absorb absorbed

theorem Reads.addLine_succeeds_iff (held : draft.Reads lines) :
    (∃ next, draft.addLine location = .ok next) ↔ LineFits F lines location.headed := by
  constructor
  · intro succeeds
    obtain ⟨next, added⟩ := succeeds
    obtain ⟨started, tokens, opened, scanned, absorbed⟩ := addLine_eq_ok.mp added
    refine ⟨(Holds.start_succeeds_iff held _).mp ⟨started, opened⟩, tokens, scanned, ?_⟩
    intro nonempty
    rw [if_neg nonempty] at absorbed
    have inside := held.start opened
    have useful := (inside.absorb_succeeds_iff tokens).mp ⟨next, absorbed⟩
    rwa [inside.reached] at useful
  · intro fits
    obtain ⟨follows, tokens, scanned, useful⟩ := fits
    obtain ⟨started, opened⟩ := (Holds.start_succeeds_iff held _).mpr follows
    by_cases empty : tokens = []
    · exact ⟨started, addLine_eq_ok.mpr ⟨started, tokens, opened, scanned, if_pos empty⟩⟩
    · have inside := held.start opened
      have useful : ContentFits F started.reached tokens := inside.reached ▸ useful empty
      obtain ⟨next, absorbed⟩ := (inside.absorb_succeeds_iff tokens).mpr useful
      exact ⟨next, addLine_eq_ok.mpr
        ⟨started, tokens, opened, scanned, (if_neg empty).trans absorbed⟩⟩

end Draft

/-- The problem that lines describe: each comparison stands for one line, in the order of the
lines, and all lines of the objective make up one expression. -/
structure Describes (lines : List HeadedLine) (problem : Problem F) : Prop where
  sense : (headings lines).filterMap Heading.sense? = [problem.sense]
  objective : Expression.read (tokenLines lines (some .objective)).flatten = .ok problem.objective
  constraints : List.Forall₂ (fun tokens constraint => Comparison.read tokens = .ok constraint)
    (tokenLines lines (some .constraints)) problem.constraints
  bounds : List.Forall₂ (fun tokens bound => Comparison.read tokens = .ok bound)
    (tokenLines lines (some .bounds)) problem.bounds

namespace Draft

variable {lines : List HeadedLine} {draft : Draft F} {problem : Problem F}

theorem finish_eq_ok :
    draft.finish = .ok problem ↔ ∃ location tokens,
      draft.objective = some (problem.sense, location, tokens) ∧
        Expression.read tokens = .ok problem.objective ∧
          draft.constraints.toList = problem.constraints ∧
            draft.bounds.toList = problem.bounds := by
  rcases problem with ⟨sense, objective, constraints, bounds⟩
  rw [finish]
  cases draft.objective with
  | none => simp
  | some start =>
    rcases start with ⟨found, location, tokens⟩
    simp only [bind_eq_ok, mapError_eq_ok, Except.ok.injEq, Problem.mk.injEq, Option.some.injEq,
      Prod.mk.injEq]
    grind

theorem Reads.finish_eq_ok_iff (held : draft.Reads lines) :
    draft.finish = .ok problem ↔ Describes lines problem := by
  rw [finish_eq_ok]
  constructor
  · intro finished
    obtain ⟨location, tokens, set, read, constraints, bounds⟩ := finished
    have sense := held.sense
    have objective := held.objective
    rw [set] at sense objective
    exact ⟨sense, objective ▸ read, constraints ▸ held.constraints, bounds ▸ held.bounds⟩
  · intro described
    have sense := held.sense.symm.trans described.sense
    cases set : draft.objective with
    | none => simp [set] at sense
    | some start =>
      rcases start with ⟨found, location, tokens⟩
      have objective := held.objective
      simp only [set, Option.map_some, Option.toList_some, List.cons.injEq, and_true,
        Option.elim_some] at sense objective
      have constraints := (mapM_eq_ok.mpr held.constraints).symm.trans
        (mapM_eq_ok.mpr described.constraints)
      have bounds := (mapM_eq_ok.mpr held.bounds).symm.trans (mapM_eq_ok.mpr described.bounds)
      exact ⟨location, tokens, by rw [sense], objective ▸ described.objective,
        Except.ok.inj constraints, Except.ok.inj bounds⟩

theorem Reads.first : ({} : Draft F).Reads (([] : List Location).map Location.headed) :=
  ⟨rfl, .nil, rfl, rfl, .nil, .nil⟩

theorem Reads.next (before : List Location) (location : Location) (draft next : Draft F)
    (held : draft.Reads (before.map Location.headed)) (added : draft.addLine location = .ok next) :
    next.Reads ((before ++ [location]).map Location.headed) := by
  rw [List.map_append]
  exact held.addLine added

theorem foldlM_addLine_succeeds_iff (locations : List Location) :
    (∃ draft : Draft F, locations.foldlM addLine {} = .ok draft) ↔
      ∀ entry ∈ withEarlier [] (locations.map Location.headed), LineFits F entry.1 entry.2 := by
  have fits : (∃ draft : Draft F, locations.foldlM addLine {} = .ok draft) ↔
      ∀ entry ∈ withEarlier [] locations,
        LineFits F (entry.1.map Location.headed) entry.2.headed :=
    foldlM_succeeds_iff _ Reads.next (fun _ _ _ held => held.addLine_succeeds_iff) Reads.first
  have mapped := withEarlier_map Location.headed [] locations
  rw [List.map_nil] at mapped
  rw [fits, mapped, List.forall_mem_map]

end Draft

end LinearProgram
