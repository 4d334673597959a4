import Mathlib.Data.List.Basic
import Reconciler.Lib.Transition

/-!
# Decoding a manifest

`ToUnstructured` (`pkg/reconciler/kubernetes/unstructured.go`) splits a manifest into its YAML
documents and decodes each into an unstructured object.  With `async`, `readYaml` starts a
goroutine, `readFct`, that reads the documents one by one with the multi-document reader and
sends each on an unbuffered channel, or sends the reader's error on a second one; its deferred
calls close both channels when it returns.  The loop of `ToUnstructured` selects on the two
channels and converts each document with `YAMLToJSON` and `newUnstructured`.

The two goroutines are a transition system (`Decoding.Steps`): the producer's own steps, and
the cases of the select, each taken together with the send it completes.  The reader is given
by what its calls of `Read` yield (`MultidocReads`), and the two conversions are partial
functions (`YamlDecoders`).

Every run ends (`Decoding.wellFounded_steps`), and where it ends the loop has returned what
`decodeSpec` says (`Decoding.loop_of_halted`).  A conversion error breaks the loop, but the
`err` it is stored in is declared by `:=` in the case of the select, so the loop returns the
outer `err`, which is nil; and when the reader has more to send, the producer stays blocked on
its send for good (`toUnstructured_hides_conversion_failure`).
-/

namespace Reconciler

open Relation Transition

variable {U : Type}

/-- The conversions of one document: `yamlToJson.YAMLToJSON`, and `newUnstructured`, which
decodes the JSON with `UnstructuredJSONScheme` and converts it to an unstructured object. -/
structure YamlDecoders (U : Type) where
  yamlToJSON : String → Except String String
  newUnstructured : String → Except String U

/-- What the calls of `multidocReader.Read` yield, one after the other: the documents, and
then `io.EOF` (`failure = none`) or an error. -/
structure MultidocReads where
  docs : List String
  failure : Option String

/-- `errors.Wrap(err, "failed to read yaml data")`. -/
def readYamlError (err : String) : String :=
  "failed to read yaml data: " ++ err

/-- The object a document converts to, nothing for the JSON `null`, or the error of the
conversion that fails. -/
def convertDocument (dec : YamlDecoders U) (yamlData : String) : Except String (Option U) :=
  match dec.yamlToJSON yamlData with
  | .error err => .error err
  | .ok jsonData =>
    if jsonData = "null" then .ok none
    else
      match dec.newUnstructured jsonData with
      | .error err => .error err
      | .ok unstruct => .ok (some unstruct)

/-! ## The two goroutines -/

/-- Where the goroutine `readFct` is. -/
inductive ReadFct
  /-- about to call `Read`, with the documents `rest` not read yet -/
  | reading (rest : List String)
  /-- blocked in `chanBytes <- buf` -/
  | sendingBytes (buf : String) (rest : List String)
  /-- blocked in `chanErr <- err` -/
  | sendingErr (err : String)
  /-- returned; the first deferred call has closed `chanBytes` -/
  | closedBytes
  /-- returned, with both channels closed -/
  | exited
  deriving DecidableEq, Repr

/-- A step of `readFct` that needs no receiver: a call of `Read`, or the deferred close of
`chanErr`. -/
def ReadFct.step (failure : Option String) : ReadFct → Option ReadFct
  | .reading (buf :: rest) => some (.sendingBytes buf rest)
  | .reading [] =>
    match failure with
    | some err => some (.sendingErr (readYamlError err))
    | none => some .closedBytes
  | .sendingBytes _ _ => none
  | .sendingErr _ => none
  | .closedBytes => some .exited
  | .exited => none

/-- Where the loop of `ToUnstructured` is, with its `result` and its outer `err`. -/
inductive DecodeLoop (U : Type)
  | selecting (result : List U) (err : Option String)
  | returned (result : List U) (err : Option String)
  deriving DecidableEq, Repr

/-- The case of the select that receives a document. -/
def receiveDocument (dec : YamlDecoders U) (result : List U) (err : Option String)
    (yamlData : String) : DecodeLoop U :=
  match dec.yamlToJSON yamlData with
  -- `jsonData, err :=` declares an `err` of the case's own: the loop returns the outer one
  | .error _ => .returned result err
  | .ok jsonData =>
    if jsonData = "null" then .selecting result err
    else
      match dec.newUnstructured jsonData with
      | .error _ => .returned result err
      | .ok unstruct => .selecting (result ++ [unstruct]) err

/-- The moves of the system: a step of the producer, or a case of the select. -/
inductive Move
  | read
  | receiveBytes
  | receiveErr
  deriving DecidableEq, Repr

/-- The state of `ToUnstructured` and of the goroutine that `readYaml` started. -/
structure Decoding (U : Type) where
  readFct : ReadFct
  loop : DecodeLoop U
  deriving DecidableEq, Repr

namespace Decoding

/-- Right after `readYaml` returns: nothing read, nothing decoded, `err` nil. -/
def init (docs : List String) : Decoding U :=
  ⟨.reading docs, .selecting [] none⟩

/-- One move.  A case of the select is taken when its channel has a sender or is closed; a
receive from a closed channel yields `ok = false` on `chanMes` and a nil error on `chanErr`.
Once `readFct` has returned, both cases may be ready, and the select takes either. -/
def step (dec : YamlDecoders U) (failure : Option String) (s : Decoding U) :
    Move → Option (Decoding U)
  | .read => (s.readFct.step failure).map fun p => ⟨p, s.loop⟩
  | .receiveBytes =>
    match s.loop, s.readFct with
    | .selecting result err, .sendingBytes buf rest =>
      some ⟨.reading rest, receiveDocument dec result err buf⟩
    | .selecting result err, .closedBytes => some ⟨.closedBytes, .returned result err⟩
    | .selecting result err, .exited => some ⟨.exited, .returned result err⟩
    | _, _ => none
  | .receiveErr =>
    match s.loop, s.readFct with
    | .selecting result _, .sendingErr err => some ⟨.closedBytes, .returned result (some err)⟩
    | .selecting result _, .exited => some ⟨.exited, .returned result none⟩
    | _, _ => none

/-- The step relation of the system. -/
def Steps (dec : YamlDecoders U) (failure : Option String) (s s' : Decoding U) : Prop :=
  ∃ m, s.step dec failure m = some s'

end Decoding

/-! ## What the loop computes -/

/-- The objects of documents that all convert, in order; `none` if one fails. -/
def convertAll (dec : YamlDecoders U) : List String → Option (List U)
  | [] => some []
  | d :: ds =>
    match convertDocument dec d with
    | .error _ => none
    | .ok u => (convertAll dec ds).map (u.toList ++ ·)

/-- What `ToUnstructured` returns, read off the documents one after the other: the objects
up to the first document that fails to convert, and the reader's error only if none does. -/
def decodeSpec (dec : YamlDecoders U) (failure : Option String) :
    List String → List U × Option String
  | [] => ([], failure.map readYamlError)
  | d :: ds =>
    match convertDocument dec d with
    | .error _ => ([], none)
    | .ok u => (u.toList ++ (decodeSpec dec failure ds).1, (decodeSpec dec failure ds).2)

/-- The documents after the first one that fails to convert. -/
def afterFailure (dec : YamlDecoders U) : List String → Option (List String)
  | [] => none
  | d :: ds =>
    match convertDocument dec d with
    | .error _ => some ds
    | .ok _ => afterFailure dec ds

section Conversions

variable (dec : YamlDecoders U)

/-- The case of the select as the conversion of the document decides it. -/
theorem receiveDocument_cases (result : List U) (err : Option String) (buf : String) :
    (∃ e, convertDocument dec buf = .error e ∧
      receiveDocument dec result err buf = .returned result err) ∨
    ∃ u, convertDocument dec buf = .ok u ∧
      receiveDocument dec result err buf = .selecting (result ++ u.toList) err := by
  unfold receiveDocument convertDocument
  split
  · exact Or.inl ⟨_, rfl, rfl⟩
  · split
    · exact Or.inr ⟨none, rfl, by simp⟩
    · split
      · exact Or.inl ⟨_, rfl, rfl⟩
      · exact Or.inr ⟨_, rfl, rfl⟩

theorem convertAll_append_singleton {pre : List String} {result : List U} {d : String}
    {u : Option U} (hpre : convertAll dec pre = some result) (hd : convertDocument dec d = .ok u) :
    convertAll dec (pre ++ [d]) = some (result ++ u.toList) := by
  induction pre generalizing result with
  | nil =>
    cases hpre
    simp [convertAll, hd]
  | cons d' pre ih =>
    simp only [convertAll] at hpre
    split at hpre
    · cases hpre
    · rename_i u' hu'
      obtain ⟨result', hresult', rfl⟩ := Option.map_eq_some_iff.mp hpre
      simp [convertAll, hu', ih hresult']

theorem convertDocument_of_convertAll {pre : List String} {result : List U}
    (hpre : convertAll dec pre = some result) : ∀ d ∈ pre, ∃ u, convertDocument dec d = .ok u := by
  induction pre generalizing result with
  | nil => simp
  | cons d' pre ih =>
    simp only [convertAll] at hpre
    split at hpre
    · cases hpre
    · rename_i u' hu'
      obtain ⟨result', hresult', -⟩ := Option.map_eq_some_iff.mp hpre
      intro d hd
      rcases List.mem_cons.mp hd with rfl | hd
      · exact ⟨u', hu'⟩
      · exact ih hresult' d hd

theorem decodeSpec_append {failure : Option String} {pre : List String} {result : List U}
    (hpre : convertAll dec pre = some result) (rest : List String) :
    decodeSpec dec failure (pre ++ rest) =
      (result ++ (decodeSpec dec failure rest).1, (decodeSpec dec failure rest).2) := by
  induction pre generalizing result with
  | nil =>
    cases hpre
    rfl
  | cons d pre ih =>
    simp only [convertAll] at hpre
    split at hpre
    · cases hpre
    · rename_i u hu
      obtain ⟨result', hresult', rfl⟩ := Option.map_eq_some_iff.mp hpre
      simp [decodeSpec, hu, ih hresult']

/-- Up to the first document that fails, the loop returns what it has and a nil error. -/
theorem decodeSpec_of_failure {failure : Option String} {pre : List String} {result : List U}
    {d e : String} (hpre : convertAll dec pre = some result)
    (hd : convertDocument dec d = .error e) (rest : List String) :
    decodeSpec dec failure (pre ++ d :: rest) = (result, none) := by
  rw [decodeSpec_append dec hpre]
  simp [decodeSpec, hd]

theorem decodeSpec_of_convertAll {failure : Option String} {docs : List String}
    {result : List U} (hdocs : convertAll dec docs = some result) :
    decodeSpec dec failure docs = (result, failure.map readYamlError) := by
  simpa [decodeSpec] using decodeSpec_append dec hdocs []

theorem afterFailure_of_failure {pre : List String} (hpre : ∀ d ∈ pre, ∃ u, convertDocument dec d = .ok u)
    {d e : String} (hd : convertDocument dec d = .error e) (rest : List String) :
    afterFailure dec (pre ++ d :: rest) = some rest := by
  induction pre with
  | nil => simp [afterFailure, hd]
  | cons d' pre ih =>
    obtain ⟨u, hu⟩ := hpre d' (by simp)
    simp only [List.cons_append, afterFailure, hu]
    exact ih fun d'' hd'' => hpre d'' (by simp [hd''])

theorem convertAll_eq_none_of_failure {pre : List String} {d e : String}
    (hd : convertDocument dec d = .error e) (rest : List String) :
    convertAll dec (pre ++ d :: rest) = none := by
  induction pre with
  | nil => simp [convertAll, hd]
  | cons d' pre ih =>
    simp only [List.cons_append, convertAll]
    split
    · rfl
    · rw [ih]
      rfl

end Conversions

/-! ## The producer's positions -/

namespace ReadFct

/-- The positions `readFct` takes, without a receiver, from the call of `Read` before the
documents `rest`. -/
def Before (failure : Option String) (rest : List String) : ReadFct → Prop
  | .reading rest' => rest' = rest
  | .sendingBytes buf rest' => rest = buf :: rest'
  | .sendingErr err => rest = [] ∧ ∃ e, failure = some e ∧ err = readYamlError e
  | .closedBytes => rest = [] ∧ failure = none
  | .exited => rest = [] ∧ failure = none

theorem Before.step {failure : Option String} {rest : List String} {p p' : ReadFct}
    (hp : p.Before failure rest) (hstep : p.step failure = some p') : p'.Before failure rest := by
  cases p with
  | reading rest' =>
    cases hp
    cases rest with
    | cons buf rest' =>
      cases hstep
      rfl
    | nil =>
      cases failure with
      | some e =>
        cases hstep
        exact ⟨rfl, e, rfl, rfl⟩
      | none =>
        cases hstep
        exact ⟨rfl, rfl⟩
  | sendingBytes => cases hstep
  | sendingErr => cases hstep
  | closedBytes =>
    cases hstep
    exact hp
  | exited => cases hstep

/-- Only the end of the documents and of the reader lets `readFct` return. -/
theorem Before.exited_iff {failure : Option String} {rest : List String} :
    ReadFct.exited.Before failure rest ↔ rest = [] ∧ failure = none :=
  Iff.rfl

end ReadFct

/-! ## Runs -/

namespace Decoding

variable {dec : YamlDecoders U} {failure : Option String} {s s' : Decoding U}

/-- Everything a move can do: a step of the producer, with the loop as it was, or a case of
the select that meets the producer in a send or finds a channel closed. -/
theorem step_cases {m : Move} (h : s.step dec failure m = some s') :
    (s.readFct.step failure = some s'.readFct ∧ s'.loop = s.loop) ∨
    (∃ result err buf rest, s.loop = .selecting result err ∧
      s.readFct = .sendingBytes buf rest ∧ s' = ⟨.reading rest, receiveDocument dec result err buf⟩) ∨
    (∃ result err e, s.loop = .selecting result err ∧ s.readFct = .sendingErr e ∧
      s' = ⟨.closedBytes, .returned result (some e)⟩) ∨
    (∃ result err, s.loop = .selecting result err ∧
      (s.readFct = .closedBytes ∨ s.readFct = .exited) ∧
      (s' = ⟨s.readFct, .returned result err⟩ ∨ s' = ⟨s.readFct, .returned result none⟩)) := by
  obtain ⟨p, loop⟩ := s
  cases m with
  | read =>
    obtain ⟨p', hp', rfl⟩ := Option.map_eq_some_iff.mp h
    exact Or.inl ⟨hp', rfl⟩
  | receiveBytes =>
    simp only [step] at h
    split at h <;> cases h
    · exact Or.inr (Or.inl ⟨_, _, _, _, rfl, rfl, rfl⟩)
    · exact Or.inr (Or.inr (Or.inr ⟨_, _, rfl, Or.inl rfl, Or.inl rfl⟩))
    · exact Or.inr (Or.inr (Or.inr ⟨_, _, rfl, Or.inr rfl, Or.inl rfl⟩))
  | receiveErr =>
    simp only [step] at h
    split at h <;> cases h
    · exact Or.inr (Or.inr (Or.inl ⟨_, _, _, rfl, rfl, rfl⟩))
    · exact Or.inr (Or.inr (Or.inr ⟨_, _, rfl, Or.inr rfl, Or.inr rfl⟩))

/-- Once the loop has returned, only the producer moves. -/
theorem step_of_returned {m : Move} {result : List U} {err : Option String}
    (hloop : s.loop = .returned result err) (h : s.step dec failure m = some s') :
    s.readFct.step failure = some s'.readFct ∧ s'.loop = s.loop := by
  rcases step_cases h with h | ⟨_, _, _, _, hl, -⟩ | ⟨_, _, _, hl, -⟩ | ⟨_, _, hl, -⟩
  · exact h
  all_goals rw [hloop] at hl; cases hl

/-- The phases of a run from `init`: the loop selecting, with the documents before `rest`
decoded and the producer before `rest`; the loop returned at the first document that fails,
with the producer before the documents after it; and the loop returned with every document
decoded, once the producer has returned. -/
inductive Inv (dec : YamlDecoders U) (reads : MultidocReads) : Decoding U → Prop
  | selecting {pre rest : List String} {result : List U} {p : ReadFct}
      (hdocs : reads.docs = pre ++ rest) (hpre : convertAll dec pre = some result)
      (hp : p.Before reads.failure rest) : Inv dec reads ⟨p, .selecting result none⟩
  | failed {pre rest : List String} {d e : String} {result : List U} {p : ReadFct}
      (hdocs : reads.docs = pre ++ d :: rest) (hpre : convertAll dec pre = some result)
      (hd : convertDocument dec d = .error e) (hp : p.Before reads.failure rest) :
      Inv dec reads ⟨p, .returned result none⟩
  | drained {result : List U} {p : ReadFct} (hdocs : convertAll dec reads.docs = some result)
      (hp : p = .closedBytes ∨ p = .exited) :
      Inv dec reads ⟨p, .returned result (reads.failure.map readYamlError)⟩

variable {reads : MultidocReads}

theorem inv_init : Inv dec reads (init reads.docs) :=
  .selecting (List.nil_append _).symm rfl rfl

/-- A move of the select while the loop is selecting. -/
theorem Inv.receive {pre rest : List String} {result : List U} {p : ReadFct}
    (hdocs : reads.docs = pre ++ rest) (hpre : convertAll dec pre = some result)
    (hp : p.Before reads.failure rest) {m : Move}
    (h : (⟨p, .selecting result none⟩ : Decoding U).step dec reads.failure m = some s') :
    Inv dec reads s' := by
  rcases step_cases h with ⟨hstep, hloop⟩ | ⟨_, _, buf, rest', hl, rfl, rfl⟩ |
      ⟨_, _, e, hl, rfl, rfl⟩ | ⟨_, _, hl, hclosed, hs'⟩
  · -- the producer moves on its own
    obtain ⟨p', loop'⟩ := s'
    cases hloop
    exact .selecting hdocs hpre (hp.step hstep)
  · -- the loop receives the document `buf`
    cases hl
    obtain rfl : rest = buf :: rest' := hp
    rcases receiveDocument_cases dec result none buf with ⟨e, he, hrecv⟩ | ⟨u, hu, hrecv⟩
    · rw [hrecv]
      exact .failed hdocs hpre he rfl
    · rw [hrecv]
      exact .selecting (by simp [hdocs]) (convertAll_append_singleton dec hpre hu) rfl
  · -- the loop receives the reader's error
    cases hl
    obtain ⟨rfl, e', hfailure, rfl⟩ := hp
    rw [List.append_nil] at hdocs
    have hdrained : Inv dec reads
        ⟨.closedBytes, .returned result (reads.failure.map readYamlError)⟩ :=
      .drained (hdocs ▸ hpre) (Or.inl rfl)
    rwa [hfailure] at hdrained
  · -- the loop finds the channels closed: the reader reached `io.EOF`
    cases hl
    have hend : rest = [] ∧ reads.failure = none := by
      rcases hclosed with rfl | rfl <;> exact hp
    obtain ⟨rfl, hfailure⟩ := hend
    rw [List.append_nil] at hdocs
    have hdrained : Inv dec reads ⟨p, .returned result (reads.failure.map readYamlError)⟩ :=
      .drained (hdocs ▸ hpre) hclosed
    rw [hfailure] at hdrained
    rcases hs' with rfl | rfl <;> exact hdrained

/-- **Every move keeps the phases.** -/
theorem Inv.step (hs : Inv dec reads s) (h : Steps dec reads.failure s s') : Inv dec reads s' := by
  obtain ⟨m, h⟩ := h
  cases hs with
  | selecting hdocs hpre hp => exact Inv.receive hdocs hpre hp h
  | failed hdocs hpre hd hp =>
    obtain ⟨hstep, hloop⟩ := step_of_returned rfl h
    obtain ⟨p', loop'⟩ := s'
    cases hloop
    exact .failed hdocs hpre hd (hp.step hstep)
  | drained hdocs hp =>
    obtain ⟨hstep, hloop⟩ := step_of_returned rfl h
    obtain ⟨p', loop'⟩ := s'
    cases hloop
    -- the producer's last step closes `chanErr`
    rcases hp with rfl | rfl <;> cases hstep
    exact .drained hdocs (Or.inr rfl)

theorem inv_of_reachable (h : Reachable (Steps dec reads.failure) (init reads.docs) s) :
    Inv dec reads s :=
  Invariant.reachable (fun _ _ hs hstep => hs.step hstep) inv_init h

/-! ### Every run ends, with the loop returned -/

/-- What is left to do: the producer's sends, calls and closes, and the loop's return. -/
def measure (s : Decoding U) : Nat :=
  (match s.readFct with
    | .reading rest => 2 * rest.length + 3
    | .sendingBytes _ rest => 2 * rest.length + 4
    | .sendingErr _ => 2
    | .closedBytes => 1
    | .exited => 0) +
  (match s.loop with
    | .selecting _ _ => 1
    | .returned _ _ => 0)

theorem measure_lt (h : Steps dec failure s s') : s'.measure < s.measure := by
  obtain ⟨m, h⟩ := h
  obtain ⟨p, loop⟩ := s
  rcases step_cases h with ⟨hstep, hloop⟩ | ⟨result, err, buf, rest', hl, rfl, rfl⟩ |
      ⟨_, _, e, hl, rfl, rfl⟩ | ⟨_, _, hl, hclosed, hs'⟩
  · obtain ⟨p', loop'⟩ := s'
    dsimp only at hloop hstep
    subst hloop
    -- a call of `Read` or a close
    cases p with
    | reading rest =>
      cases rest with
      | cons => cases hstep; simp [measure]; omega
      | nil => cases failure <;> cases hstep <;> simp [measure]
    | closedBytes => cases hstep; simp [measure]
    | _ => cases hstep
  · dsimp only at hl
    subst hl
    rcases receiveDocument_cases dec result err buf with ⟨_, -, hrecv⟩ | ⟨_, -, hrecv⟩ <;>
      simp [measure, hrecv]
  · dsimp only at hl
    subst hl
    simp [measure]
  · dsimp only at hl hclosed
    subst hl
    rcases hs' with rfl | rfl <;> simp [measure]

/-- **No run goes on forever.** -/
theorem wellFounded_steps : WellFounded fun s' s => Steps dec failure s s' :=
  wellFounded_of_measure measure fun _ _ h => measure_lt h

/-- While the loop selects, some move is possible: the producer's, or a case of the select. -/
theorem not_halted_of_selecting {rest : List String} {result : List U} {p : ReadFct}
    (hp : p.Before failure rest) :
    ¬ Halted (Steps dec failure) ⟨p, .selecting result none⟩ := by
  intro hhalt
  cases p with
  | reading rest' =>
    cases rest' with
    | cons buf rest' => exact hhalt _ ⟨.read, rfl⟩
    | nil => cases failure <;> exact hhalt _ ⟨.read, rfl⟩
  | sendingBytes buf rest' => exact hhalt _ ⟨.receiveBytes, rfl⟩
  | sendingErr e => exact hhalt _ ⟨.receiveErr, rfl⟩
  | closedBytes => exact hhalt _ ⟨.read, rfl⟩
  | exited => exact hhalt _ ⟨.receiveBytes, rfl⟩

/-- Where a run from `init` ends, `ToUnstructured` has returned what `decodeSpec` says. -/
theorem loop_of_halted (h : Reachable (Steps dec reads.failure) (init reads.docs) s)
    (hhalt : Halted (Steps dec reads.failure) s) :
    s.loop = .returned (decodeSpec dec reads.failure reads.docs).1
      (decodeSpec dec reads.failure reads.docs).2 := by
  cases inv_of_reachable h with
  | selecting hdocs hpre hp => exact absurd hhalt (not_halted_of_selecting hp)
  | failed hdocs hpre hd hp => rw [hdocs, decodeSpec_of_failure dec hpre hd]
  | drained hdocs hp => rw [decodeSpec_of_convertAll dec hdocs]

/-- Where a run ends with every document decoded, the producer has returned. -/
theorem readFct_of_halted_of_convertAll {result : List U}
    (h : Reachable (Steps dec reads.failure) (init reads.docs) s)
    (hhalt : Halted (Steps dec reads.failure) s) (hdocs : convertAll dec reads.docs = some result) :
    s.readFct = .exited := by
  cases inv_of_reachable h with
  | selecting hdocs' hpre hp => exact absurd hhalt (not_halted_of_selecting hp)
  | failed hdocs' hpre hd hp =>
    rw [hdocs', convertAll_eq_none_of_failure dec hd] at hdocs
    cases hdocs
  | drained hdocs' hp =>
    rcases hp with rfl | rfl
    · exact absurd hhalt fun hhalt => hhalt _ ⟨.read, rfl⟩
    · rfl

end Decoding

/-- **A document that fails to convert is reported as no error, and strands the producer.**
Take a manifest whose first document that fails to convert is followed by another document,
or by an error of the reader.  Wherever a run of `ToUnstructured` ends, it has returned a nil
error, and `readFct` has not returned: it is blocked on a send that no one will receive. -/
theorem toUnstructured_hides_conversion_failure (dec : YamlDecoders U) (reads : MultidocReads)
    {pre post : List String} {d e : String} (hdocs : reads.docs = pre ++ d :: post)
    (hpre : ∀ d' ∈ pre, ∃ u, convertDocument dec d' = .ok u)
    (hd : convertDocument dec d = .error e) (hmore : post ≠ [] ∨ reads.failure ≠ none)
    {s : Decoding U} (h : Reachable (Decoding.Steps dec reads.failure) (Decoding.init reads.docs) s)
    (hhalt : Halted (Decoding.Steps dec reads.failure) s) :
    (∃ result, s.loop = .returned result none) ∧ s.readFct ≠ .exited := by
  have hafter : afterFailure dec reads.docs = some post := by
    rw [hdocs]
    exact afterFailure_of_failure dec hpre hd post
  cases Decoding.inv_of_reachable h with
  | selecting hdocs' hpre' hp => exact absurd hhalt (Decoding.not_halted_of_selecting hp)
  | failed hdocs' hpre' hd' hp =>
    -- the loop broke at the first failing document, so the producer is before `post`
    rw [hdocs', afterFailure_of_failure dec (convertDocument_of_convertAll dec hpre') hd'] at hafter
    cases hafter
    refine ⟨⟨_, rfl⟩, fun hexited => ?_⟩
    dsimp only at hexited
    subst hexited
    obtain ⟨hpost, hfailure⟩ := ReadFct.Before.exited_iff.mp hp
    exact hmore.elim (fun h => h hpost) (fun h => h hfailure)
  | drained hdocs' hp =>
    rw [hdocs, convertAll_eq_none_of_failure dec hd] at hdocs'
    cases hdocs'

/-- Decoders under which the document `bad` is no YAML, and every other document is its own
JSON and object. -/
def badDocumentDecoders : YamlDecoders String :=
  { yamlToJSON := fun yamlData =>
      if yamlData = "bad" then .error "yaml: could not find expected ':'" else .ok yamlData,
    newUnstructured := fun jsonData => .ok jsonData }

/-- A manifest of three documents whose second is no YAML, read to its end. -/
def badSecondDocument : MultidocReads :=
  { docs := ["kind: A", "bad", "kind: B"], failure := none }

/-- Where the run on that manifest ends: the loop has returned the first object and no error,
and `readFct` is blocked sending the third document. -/
def strandedDecoding : Decoding String :=
  ⟨.sendingBytes "kind: B" [], .returned ["kind: A"] none⟩

theorem toUnstructured_hides_bad_second_document :
    (∃ result, strandedDecoding.loop = .returned result none) ∧
      strandedDecoding.readFct ≠ .exited :=
  toUnstructured_hides_conversion_failure badDocumentDecoders badSecondDocument
    (show badSecondDocument.docs = ["kind: A"] ++ "bad" :: ["kind: B"] from rfl)
    (fun d' hd' => by
      rw [List.mem_singleton.mp hd']
      exact ⟨_, rfl⟩)
    rfl (Or.inl (by simp))
    (.tail (.tail (.tail (.tail (.tail .refl ⟨.read, rfl⟩) ⟨.receiveBytes, rfl⟩) ⟨.read, rfl⟩)
      ⟨.receiveBytes, rfl⟩) ⟨.read, rfl⟩)
    (fun s' ⟨m, hm⟩ => by cases m <;> simp [strandedDecoding, Decoding.step, ReadFct.step] at hm)

end Reconciler
