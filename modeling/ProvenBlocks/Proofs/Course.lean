import Mathlib.Data.List.Chain
import ProvenBlocks.Proofs.Restoring

/-!
The course of production: what rounds lead to as long as no call fails. A course knows the open
block but not its writer. A round opens a block if none is open, feeds it, and ends it with the
last of its rounds.
-/

namespace ProvenBlocks

namespace OpenBlock

/-- The open block, whoever writes it. -/
@[simps]
def anonymous (block : OpenBlock) : OpenBlock := { block with writer := 0 }

/-- The open block after one more round. -/
@[simps]
def counted (block : OpenBlock) : OpenBlock := { block with rounds := block.rounds + 1 }

/-- What closing the block leaves. -/
@[simps]
def closing (block : OpenBlock) (view : View) (round : Round) : Closing :=
  ⟨block.closed view round, view.close block⟩

end OpenBlock

/-- The view is the one that the block was opened on. -/
structure View.Precedes (view : View) (block : ClosedBlock) : Prop where
  prior : view.chain.prior = some block.previousHash
  next : view.chain.nextNumber = .ok block.number

/-- The later block has the next number and builds on the hash of the earlier one. -/
structure Closing.Continues (earlier later : Closing) : Prop where
  linked : later.block.previousHash = earlier.block.hash
  next : later.block.number.toNat = earlier.block.number.toNat + 1

structure Course where
  settings : StreamSettings
  draft : Option OpenBlock
  lastTime : Option Instant
  view : View

/-- The course right after a block was closed. -/
@[simps]
def Closing.rest (closing : Closing) (settings : StreamSettings) : Course :=
  ⟨settings, none, some closing.block.time, closing.view⟩

namespace Course

/-- Opens the next block if none is open. -/
def opened (course : Course) (round : Round) : Except Overflow Course :=
  match course.draft with
  | some _ => .ok course
  | none =>
      match course.view.chain.nextNumber with
      | .error overflow => .error overflow
      | .ok number => .ok { course with
          draft := some
            (Assembler.fresh number (course.view.chain.prior.getD Digest.zero) round 0)
          view := course.view.opened number }

@[simps]
def take (course : Course) (item : Item) : Course :=
  { course with
    draft := course.draft.map fun block => block.add item
    view := course.view.add item }

def takeAll (course : Course) (items : List Item) : Course := items.foldl take course

/-- The last round of a block closes it. -/
def ended (course : Course) (round : Round) : Course × Option Closing :=
  match course.draft with
  | none => (course, none)
  | some draft =>
      if draft.counted.rounds < course.settings.roundsPerBlock then
        ({ course with draft := some draft.counted }, none)
      else
        ((draft.counted.closing course.view round).rest course.settings,
          some (draft.counted.closing course.view round))

def round (course : Course) (round : Round) : Except Overflow (Course × Option Closing) :=
  match course.opened round with
  | .error overflow => .error overflow
  | .ok opened => .ok ((opened.takeAll round.items).ended round)

/-- What holds of every course from the start. -/
structure Sound (course : Course) : Prop where
  positive : course.settings.roundsPerBlock ≠ 0
  regular : course.view.Regular
  anchored : course.view.chain.prior.isSome
  prior : ∀ block, course.draft = some block →
    course.view.chain.prior = some block.previousHash
  next : ∀ block, course.draft = some block → course.view.chain.nextNumber = .ok block.number
  unfinished : ∀ block, course.draft = some block →
    block.rounds < course.settings.roundsPerBlock

variable {course next : Course}

/-! ### What a round keeps -/

theorem opened_overflow {round : Round} {overflow : Overflow}
    (refused : course.opened round = .error overflow) :
    course.draft = none ∧ course.view.chain.nextNumber = .error overflow := by
  unfold opened at refused
  split at refused
  · contradiction
  · rename_i idle
    split at refused
    · rename_i found next
      cases refused
      exact ⟨idle, next⟩
    · contradiction

theorem opened_chain {round : Round} (ran : course.opened round = .ok next) :
    next.view.chain = course.view.chain ∧ next.settings = course.settings ∧
      next.draft.isSome := by
  unfold opened at ran
  split at ran
  · rename_i block held
    cases ran
    exact ⟨rfl, rfl, by rw [held]; rfl⟩
  · split at ran
    · contradiction
    · cases ran
      exact ⟨rfl, rfl, rfl⟩

theorem Sound.opened {round : Round} (sound : course.Sound)
    (ran : course.opened round = .ok next) : next.Sound := by
  unfold Course.opened at ran
  split at ran
  · cases ran
    exact sound
  · split at ran
    · contradiction
    · rename_i number follows
      cases ran
      obtain ⟨hash, prior⟩ := Option.isSome_iff_exists.mp sound.anchored
      constructor
      · exact sound.positive
      · exact sound.regular.opened number
      · exact sound.anchored
      · rintro block ⟨⟩
        rw [Assembler.fresh_previousHash, prior]
        exact prior
      · rintro block ⟨⟩
        exact follows
      · rintro block ⟨⟩
        exact UInt32.pos_iff_ne_zero.mpr sound.positive

theorem Sound.take (sound : course.Sound) (item : Item) : (course.take item).Sound := by
  have chain : (course.take item).view.chain = course.view.chain := View.add_chain _ _
  constructor
  · exact sound.positive
  · exact sound.regular.add item
  · rw [chain]
    exact sound.anchored
  all_goals
    intro block held
    obtain ⟨before, draft, rfl⟩ := Option.map_eq_some_iff.mp held
  · rw [chain, OpenBlock.add_previous_hash]
    exact sound.prior before draft
  · rw [chain, OpenBlock.add_number]
    exact sound.next before draft
  · rw [OpenBlock.add_rounds]
    exact sound.unfinished before draft

theorem Sound.take_all (sound : course.Sound) (items : List Item) :
    (course.takeAll items).Sound := by
  induction items generalizing course with
  | nil => exact sound
  | cons item later inductive_hypothesis => exact inductive_hypothesis (sound.take item)

@[simp] theorem take_all_chain (items : List Item) :
    (course.takeAll items).view.chain = course.view.chain := by
  induction items generalizing course with
  | nil => rfl
  | cons item later inductive_hypothesis =>
      exact inductive_hypothesis.trans (View.add_chain _ _)

theorem take_all_draft (items : List Item) :
    (course.takeAll items).draft.isSome = course.draft.isSome := by
  induction items generalizing course with
  | nil => rfl
  | cons item later inductive_hypothesis =>
      exact inductive_hypothesis.trans Option.isSome_map

@[simp] theorem take_all_settings (items : List Item) :
    (course.takeAll items).settings = course.settings := by
  induction items generalizing course with
  | nil => rfl
  | cons item later inductive_hypothesis => exact inductive_hypothesis

/-- The end of a round either counts it or closes the block. -/
theorem ended_cases {draft : OpenBlock} (held : course.draft = some draft) (round : Round) :
    (draft.counted.rounds < course.settings.roundsPerBlock ∧
      course.ended round = ({ course with draft := some draft.counted }, none)) ∨
    (¬ draft.counted.rounds < course.settings.roundsPerBlock ∧
      course.ended round = ((draft.counted.closing course.view round).rest course.settings,
        some (draft.counted.closing course.view round))) := by
  simp only [ended, held]
  by_cases early : draft.counted.rounds < course.settings.roundsPerBlock
  · rw [if_pos early]
    exact .inl ⟨early, rfl⟩
  · rw [if_neg early]
    exact .inr ⟨early, rfl⟩

theorem settled_of_close (block : OpenBlock) (regular : course.view.Regular)
    (next : course.view.chain.nextNumber = .ok block.number) (round : Round) :
    (block.closing course.view round).Settled where
  regular := regular.close (Chain.next_number_height next)
  number := rfl
  prior := rfl
  newest := Window.push_newest _ _
  hidden := rfl
  running := rfl

/-- What the end of a round leaves. -/
structure Ended (course : Course) (result : Course × Option Closing) : Prop where
  sound : result.1.Sound
  settings : result.1.settings = course.settings
  open_ : result.2 = none → result.1.view.chain = course.view.chain
  closed : ∀ closing, result.2 = some closing →
    result.1 = closing.rest course.settings ∧ closing.Settled ∧
      course.view.Precedes closing.block

theorem Sound.ended (sound : course.Sound) (round : Round) : Ended course (course.ended round) := by
  rcases held : course.draft with _ | draft
  · have nothing : course.ended round = (course, none) := by simp only [Course.ended, held]
    rw [nothing]
    exact ⟨sound, rfl, fun _ => rfl, fun closing found => by cases found⟩
  rcases ended_cases held round with ⟨early, result⟩ | ⟨due, result⟩
  · rw [result]
    constructor
    · constructor
      · exact sound.positive
      · exact sound.regular
      · exact sound.anchored
      · rintro block ⟨⟩
        exact sound.prior draft held
      · rintro block ⟨⟩
        exact sound.next draft held
      · rintro block ⟨⟩
        exact early
    · rfl
    · exact fun _ => rfl
    · exact fun closing found => by cases found
  · have settled := settled_of_close draft.counted sound.regular
      (sound.next draft held) round
    rw [result]
    constructor
    · constructor
      · exact sound.positive
      · exact settled.regular
      · rfl
      all_goals
        intro block found
        cases found
    · rfl
    · exact fun found => by cases found
    · rintro closing ⟨⟩
      exact ⟨rfl, settled, ⟨sound.prior draft held, sound.next draft held⟩⟩

/-! ### Courses that differ in the seed only -/

/-- The first course is where the second one is, but may have lost its seed. -/
structure Agrees (restored full : Course) : Prop where
  settings : restored.settings = full.settings
  draft : restored.draft = full.draft
  lastTime : restored.lastTime = full.lastTime
  view : restored.view.Agrees full.view

namespace Agrees

variable {restored full : Course}

theorem opened {round : Round} (agrees : restored.Agrees full)
    (ran : restored.opened round = .ok next) :
    ∃ reached, full.opened round = .ok reached ∧ next.Agrees reached := by
  unfold Course.opened at ran ⊢
  rw [← agrees.draft, ← agrees.view.chain]
  split at ran
  · cases ran
    exact ⟨full, rfl, agrees⟩
  · split at ran
    · contradiction
    · cases ran
      exact ⟨_, rfl, ⟨agrees.settings, rfl, agrees.lastTime, agrees.view.opened _⟩⟩

theorem take (agrees : restored.Agrees full) (item : Item) :
    (restored.take item).Agrees (full.take item) :=
  ⟨agrees.settings, congrArg (Option.map _) agrees.draft, agrees.lastTime, agrees.view.add item⟩

theorem take_all (agrees : restored.Agrees full) (items : List Item) :
    (restored.takeAll items).Agrees (full.takeAll items) := by
  induction items generalizing restored full with
  | nil => exact agrees
  | cons item later inductive_hypothesis => exact inductive_hypothesis (agrees.take item)

theorem closing (agrees : restored.Agrees full) (block : OpenBlock) (round : Round) :
    block.closing restored.view round = block.closing full.view round := by
  simp only [OpenBlock.closing, OpenBlock.closed, agrees.view.close, agrees.view.hash,
    agrees.view.running]

theorem ended (agrees : restored.Agrees full) (round : Round) :
    (restored.ended round).1.Agrees (full.ended round).1 ∧
      (restored.ended round).2 = (full.ended round).2 := by
  simp only [Course.ended, agrees.draft, agrees.settings]
  split
  · exact ⟨agrees, rfl⟩
  · rename_i draft held
    by_cases early : draft.counted.rounds < full.settings.roundsPerBlock
    · rw [if_pos early, if_pos early]
      exact ⟨⟨rfl, rfl, agrees.lastTime, agrees.view⟩, rfl⟩
    · rw [if_neg early, if_neg early, agrees.closing]
      exact ⟨⟨rfl, rfl, rfl, .refl _⟩, rfl⟩

/-- A round closes the same block on both courses, if any. -/
theorem round {round : Round} {closing : Option Closing} (agrees : restored.Agrees full)
    (ran : restored.round round = .ok (next, closing)) :
    ∃ reached, full.round round = .ok (reached, closing) ∧ next.Agrees reached := by
  unfold Course.round at ran ⊢
  split at ran
  · contradiction
  · rename_i started opened
    obtain ⟨reached, found, begun⟩ := agrees.opened opened
    have ended := (begun.take_all round.items).ended round
    rw [Except.ok.injEq] at ran
    rw [ran] at ended
    rw [found]
    exact ⟨_, congrArg Except.ok (Prod.ext rfl ended.2.symm), ended.1⟩

end Agrees

/-! ### Many rounds -/

/-- Only a block without a number stops a course. -/
theorem round_overflow {round : Round} {overflow : Overflow}
    (refused : course.round round = .error overflow) :
    course.view.chain.nextNumber = .error overflow := by
  unfold Course.round at refused
  split at refused
  · rename_i found opened
    cases refused
    exact (opened_overflow opened).2
  · contradiction

/-- What a whole round leaves. -/
theorem Sound.round {round : Round} {closing : Option Closing} (sound : course.Sound)
    (ran : course.round round = .ok (next, closing)) : Ended course (next, closing) := by
  unfold Course.round at ran
  split at ran
  · contradiction
  · rename_i opened begun
    rw [Except.ok.injEq] at ran
    obtain ⟨chain, settings, _⟩ := opened_chain begun
    have taken : (opened.takeAll round.items).view.chain = course.view.chain := by
      rw [take_all_chain, chain]
    have kept : (opened.takeAll round.items).settings = course.settings := by
      rw [take_all_settings, settings]
    have ended := ((sound.opened begun).take_all round.items).ended round
    rw [ran] at ended
    constructor
    · exact ended.sound
    · rw [ended.settings, kept]
    · intro none_
      rw [ended.open_ none_, taken]
    · intro closing found
      obtain ⟨rest, settled, precedes⟩ := ended.closed closing found
      refine ⟨?_, settled, ⟨?_, ?_⟩⟩
      · rw [rest, kept]
      · rw [← taken]
        exact precedes.prior
      · rw [← taken]
        exact precedes.next

/-- Where rounds lead, and the blocks that they close. -/
inductive Leads (start : Course) : List Round → Course → List Closing → Prop
  | refl : Leads start [] start []
  | step {rounds : List Round} {course next : Course} {closings : List Closing} {round : Round}
      {closing : Option Closing} (led : Leads start rounds course closings)
      (ran : course.round round = .ok (next, closing)) :
      Leads start (rounds ++ [round]) next (closings ++ closing.toList)

theorem Leads.trans {start middle last : Course} {rounds more : List Round}
    {closings later : List Closing} (first : start.Leads rounds middle closings)
    (second : middle.Leads more last later) :
    start.Leads (rounds ++ more) last (closings ++ later) := by
  induction second with
  | refl =>
      rw [List.append_nil, List.append_nil]
      exact first
  | step led ran inductive_hypothesis =>
      rw [← List.append_assoc, ← List.append_assoc]
      exact .step inductive_hypothesis ran

/-- The course after the last of the closed blocks, or the first course of all. -/
def after (start : Course) (closings : List Closing) : Course :=
  match closings.getLast? with
  | none => start
  | some last => last.rest start.settings

@[simp] theorem after_concat (start : Course) (closings : List Closing) (last : Closing) :
    start.after (closings ++ [last]) = last.rest start.settings := by
  simp only [after, List.getLast?_concat]

/-- What holds of closed blocks along a course. -/
structure Along (start course : Course) (closings : List Closing) : Prop where
  sound : course.Sound
  settings : course.settings = start.settings
  settled : ∀ closing ∈ closings, closing.Settled
  chain : course.view.chain = (start.after closings).view.chain
  first : ∀ first, closings.head? = some first → start.view.Precedes first.block
  chained : closings.IsChain Closing.Continues

theorem Along.continues {start : Course} {closings : List Closing} {closing : Closing}
    (along : Along start course closings) (precedes : course.view.Precedes closing.block)
    {last : Closing} (newest : closings.getLast? = some last) : last.Continues closing := by
  have settled := along.settled last (List.mem_of_getLast? newest)
  have chain : course.view.chain = last.view.chain := by
    rw [along.chain, after, newest]
    rfl
  constructor
  · have prior := settled.prior.symm.trans (chain ▸ precedes.prior)
    rw [Option.some.injEq] at prior
    exact prior.symm
  · have height := Chain.next_number_height precedes.next
    rw [height, chain, Chain.height, settled.number]

theorem Along.close {start next : Course} {closings : List Closing} {closing : Closing}
    (along : Along start course closings) (ended : Ended course (next, some closing)) :
    Along start next (closings ++ [closing]) := by
  obtain ⟨rest, settled, precedes⟩ := ended.closed closing rfl
  constructor
  · exact ended.sound
  · rw [ended.settings, along.settings]
  · intro other member
    rcases List.mem_append.mp member with earlier | now
    · exact along.settled other earlier
    · rw [List.mem_singleton.mp now]
      exact settled
  · rw [after_concat]
    exact congrArg (fun reached => reached.view.chain) rest
  · intro first head
    rcases closings with _ | ⟨oldest, later⟩
    · cases head
      have chain : course.view.chain = start.view.chain := along.chain
      exact ⟨chain ▸ precedes.prior, chain ▸ precedes.next⟩
    · exact along.first first head
  · refine List.isChain_append.mpr ⟨along.chained, List.isChain_singleton _, ?_⟩
    intro last newest other head
    cases head
    exact along.continues precedes newest

theorem Leads.along {start : Course} {rounds : List Round} {closings : List Closing}
    (sound : start.Sound) (led : start.Leads rounds course closings) :
    Along start course closings := by
  induction led with
  | refl =>
      constructor
      · exact sound
      · rfl
      · exact fun closing member => absurd member List.not_mem_nil
      · rfl
      · exact fun first head => by cases head
      · exact .nil
  | @step rounds course next closings round closing led ran inductive_hypothesis =>
      have ended := inductive_hypothesis.sound.round ran
      cases closing with
      | none =>
          rw [Option.toList_none, List.append_nil]
          exact ⟨ended.sound, ended.settings.trans inductive_hypothesis.settings,
            inductive_hypothesis.settled, (ended.open_ rfl).trans inductive_hypothesis.chain,
            inductive_hypothesis.first, inductive_hypothesis.chained⟩
      | some closing => exact inductive_hypothesis.close ended

end Course
end ProvenBlocks
