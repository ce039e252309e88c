import Mathlib.Data.List.Basic

/-!
# Framed streams

Frames stand one after the other as words of a stream.  No word begins another
one, and what a reader holds between two chunks holds no whole word, so a stream
has one reading, whatever the chunks in which it comes.
-/

/-- Frames as words, and the beginnings of words that a reader may hold. -/
structure Framing (α F S : Type) where
  word : F → List α
  held : S → List α
  valid : F → Prop
  nonempty : ∀ {frame}, valid frame → word frame ≠ []
  instant : ∀ {first second}, valid first → valid second →
    word first <+: word second → first = second
  short : ∀ {frame} state, valid frame → ¬word frame <+: held state
  cut : ∀ {frame start}, valid frame → start <+: word frame →
    start ≠ word frame → ∃ state, held state = start
  cut_held : ∀ {state start}, start <+: held state →
    ∃ other, held other = start
  held_inj : ∀ {first second}, held first = held second → first = second

namespace Framing

variable {α F S : Type} (framing : Framing α F S)

/-- The stream is these frames, and the beginning of another one. -/
structure Reads (stream : List α) (frames : List F) (rest : S) : Prop where
  valid : ∀ frame ∈ frames, framing.valid frame
  stream : stream = frames.flatMap framing.word ++ framing.held rest

/-- The stream begins with these frames. -/
structure Begins (stream : List α) (frames : List F) : Prop where
  valid : ∀ frame ∈ frames, framing.valid frame
  begins : frames.flatMap framing.word <+: stream

variable {framing}

/-- Frames at the beginning of a stream are those of its reading. -/
theorem Begins.of_reads {stream : List α} {frames all : List F} {rest : S}
    (begins : framing.Begins stream frames)
    (reads : framing.Reads stream all rest) : frames <+: all := by
  obtain ⟨validFrames, begins⟩ := begins
  obtain ⟨validAll, same⟩ := reads
  subst same
  induction frames generalizing all with
  | nil => exact List.nil_prefix
  | cons frame frames induction =>
      have valid := validFrames frame List.mem_cons_self
      rw [List.flatMap_cons] at begins
      have first : framing.word frame <+:
          all.flatMap framing.word ++ framing.held rest :=
        (List.prefix_append _ _).trans begins
      cases all with
      | nil => exact absurd first (framing.short rest valid)
      | cons other all =>
          have validOther := validAll other List.mem_cons_self
          rw [List.flatMap_cons, List.append_assoc] at first begins
          have same : frame = other := by
            rcases List.prefix_or_prefix_of_prefix first
              (List.prefix_append _ _) with here | there
            · exact framing.instant valid validOther here
            · exact (framing.instant validOther valid there).symm
          subst same
          rw [List.prefix_append_right_inj] at begins
          exact List.cons_prefix_cons.mpr ⟨rfl, induction
            (fun frame member => validFrames frame
              (List.mem_cons_of_mem _ member))
            (fun frame member => validAll frame
              (List.mem_cons_of_mem _ member)) begins⟩

theorem Reads.begins {stream : List α} {frames : List F} {rest : S}
    (reads : framing.Reads stream frames rest) :
    framing.Begins stream frames :=
  ⟨reads.valid, reads.stream ▸ List.prefix_append _ _⟩

/-- A stream has one reading. -/
theorem Reads.unique {stream : List α} {first second : List F} {rest last : S}
    (one : framing.Reads stream first rest)
    (other : framing.Reads stream second last) :
    first = second ∧ rest = last := by
  have same : first = second :=
    (one.begins.of_reads other).eq_of_length_le
      (other.begins.of_reads one).length_le
  subst same
  refine ⟨rfl, framing.held_inj ?_⟩
  exact List.append_cancel_left (one.stream.symm.trans other.stream)

theorem Reads.append {stream more : List α} {first second : List F}
    {between rest : S} (reads : framing.Reads stream first between)
    (later : framing.Reads (framing.held between ++ more) second rest) :
    framing.Reads (stream ++ more) (first ++ second) rest where
  valid frame member := by
    rcases List.mem_append.mp member with here | there
    · exact reads.valid frame here
    · exact later.valid frame there
  stream := by
    rw [reads.stream, List.append_assoc, later.stream, List.flatMap_append,
      List.append_assoc]

/-- A reading can be interrupted anywhere. -/
theorem Reads.interrupt {stream more : List α} {frames : List F} {rest : S}
    (reads : framing.Reads (stream ++ more) frames rest) :
    ∃ first between second, framing.Reads stream first between ∧
      framing.Reads (framing.held between ++ more) second rest ∧
      frames = first ++ second := by
  obtain ⟨valid, same⟩ := reads
  induction frames generalizing stream with
  | nil =>
      obtain ⟨state, held⟩ := framing.cut_held
        (show stream <+: framing.held rest from ⟨more, same⟩)
      refine ⟨[], state, [], ⟨by simp, held.symm⟩, ⟨by simp, ?_⟩, rfl⟩
      rw [held]
      exact same
  | cons frame frames induction =>
      have isValid := valid frame List.mem_cons_self
      have others : ∀ other ∈ frames, framing.valid other :=
        fun other member => valid other (List.mem_cons_of_mem _ member)
      rw [List.flatMap_cons, List.append_assoc] at same
      rcases List.append_eq_append_iff.mp same with
        ⟨middle, word, still⟩ | ⟨middle, word, still⟩
      · -- The cut is within this word, or at its end.
        by_cases whole : stream = framing.word frame
        · obtain ⟨state, held⟩ := framing.cut isValid List.nil_prefix
            (framing.nonempty isValid).symm
          have empty : middle = [] := by
            rw [whole] at word
            exact List.self_eq_append_right.mp word
          refine ⟨[frame], state, frames, ⟨?_, ?_⟩, ⟨others, ?_⟩, rfl⟩
          · intro other member
            rw [List.mem_singleton.mp member]
            exact isValid
          · rw [List.flatMap_singleton, held, List.append_nil, whole]
          · rw [held, still, empty]
            rfl
        · obtain ⟨state, held⟩ := framing.cut isValid ⟨middle, word.symm⟩ whole
          refine ⟨[], state, frame :: frames, ⟨by simp, held.symm⟩,
            ⟨valid, ?_⟩, rfl⟩
          rw [held, same, List.flatMap_cons, List.append_assoc]
      · obtain ⟨first, between, second, here, there, split⟩ :=
          induction others still.symm
        refine ⟨frame :: first, between, second, ⟨?_, ?_⟩, there, ?_⟩
        · intro other member
          rcases List.mem_cons.mp member with rfl | later
          · exact isValid
          · exact here.valid other later
        · rw [word, here.stream, List.flatMap_cons, List.append_assoc]
        · rw [split, List.cons_append]

/-! ## Chunks -/

/-- Pushes chunk after chunk until one of them fails. -/
def pushAll (push : S → List α → Option (S × List F)) (state : S) :
    List (List α) → Option (S × List F)
  | [] => some (state, [])
  | chunk :: chunks =>
      (push state chunk).bind fun (next, frames) =>
        (pushAll push next chunks).map fun (last, later) =>
          (last, frames ++ later)

variable (framing)

/-- No chunk is too long or completes too many frames. -/
def Admissible (maxLength maxFrames : Nat) (earlier : List α) :
    List (List α) → Prop
  | [] => True
  | chunk :: chunks => chunk.length ≤ maxLength ∧
      (∀ frames, framing.Begins (earlier ++ chunk) frames →
        ∃ before, framing.Begins earlier before ∧
          frames.length ≤ before.length + maxFrames) ∧
      Admissible maxLength maxFrames (earlier ++ chunk) chunks

/-- The push reads what it accepts, and accepts what fits and can be read. -/
structure Reader (push : S → List α → Option (S × List F))
    (maxLength maxFrames : Nat) : Prop where
  sound : ∀ {state chunk next frames}, push state chunk = some (next, frames) →
    framing.Reads (framing.held state ++ chunk) frames next
  complete : ∀ {state chunk next frames},
    framing.Reads (framing.held state ++ chunk) frames next →
      chunk.length ≤ maxLength → frames.length ≤ maxFrames →
        push state chunk = some (next, frames)

variable {framing}

section Reader

variable {push : S → List α → Option (S × List F)} {maxLength maxFrames : Nat}

theorem Reader.reads (reader : framing.Reader push maxLength maxFrames)
    {state last : S} {chunks : List (List α)} {frames : List F}
    (pushed : pushAll push state chunks = some (last, frames)) :
    framing.Reads (framing.held state ++ chunks.flatten) frames last := by
  induction chunks generalizing state frames with
  | nil =>
      cases pushed
      refine ⟨by simp, ?_⟩
      rw [List.flatten_nil, List.append_nil, List.flatMap_nil, List.nil_append]
  | cons chunk chunks induction =>
      obtain ⟨⟨next, first⟩, taken, pushed⟩ := Option.bind_eq_some_iff.mp pushed
      obtain ⟨⟨_, later⟩, rest, same⟩ := Option.map_eq_some_iff.mp pushed
      cases same
      have all := (reader.sound taken).append (induction rest)
      rw [List.append_assoc] at all
      exact all

/-- A chunk completes no more frames than it may. -/
theorem Admissible.few {earlier chunk : List α} {chunks : List (List α)}
    {past frames : List F} {state next : S}
    (admissible : framing.Admissible maxLength maxFrames earlier
      (chunk :: chunks))
    (consumed : framing.Reads earlier past state)
    (reads : framing.Reads (framing.held state ++ chunk) frames next) :
    frames.length ≤ maxFrames := by
  obtain ⟨before, begins, few⟩ := admissible.2.1 _ (consumed.append reads).begins
  have shorter := (begins.of_reads consumed).length_le
  rw [List.length_append] at few
  omega

theorem Reader.pushes (reader : framing.Reader push maxLength maxFrames)
    {state last : S} {earlier : List α} {chunks : List (List α)}
    {past frames : List F} (consumed : framing.Reads earlier past state)
    (admissible : framing.Admissible maxLength maxFrames earlier chunks)
    (reads : framing.Reads (framing.held state ++ chunks.flatten) frames last) :
    pushAll push state chunks = some (last, frames) := by
  induction chunks generalizing state earlier past frames with
  | nil =>
      have here : framing.Reads (framing.held state ++ ([] : List α)) [] state :=
        ⟨by simp, by simp⟩
      obtain ⟨rfl, rfl⟩ := here.unique reads
      rfl
  | cons chunk chunks induction =>
      rw [List.flatten_cons, ← List.append_assoc] at reads
      obtain ⟨first, between, second, here, there, rfl⟩ := reads.interrupt
      have taken := reader.complete here admissible.1
        (admissible.few consumed here)
      have rest := induction (consumed.append here) admissible.2.2 there
      rw [pushAll, taken, Option.bind_some]
      simp only
      rw [rest]
      rfl

end Reader

end Framing
