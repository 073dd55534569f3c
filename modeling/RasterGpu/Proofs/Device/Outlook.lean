import Mathlib.Logic.Relation
import RasterGpu.Proofs.Device.Window
import RasterGpu.Proofs.Device.ReadAhead
import RasterGpu.Proofs.Drawing.Split

/-!
# What the memory engine is going to do

Commands of the memory engine are a program: some write words, some bring values back. An `Outlook`
lists the words and the values that are still to come, and what the counters will show when they
have.

* `Outlook.ofCommands` is the outlook of a list of commands that are carried out one after the
  other.
* `MemoryEngine.outlook` is that of an engine: of its request as far as it has come, of what is left
  of a fill, and of the commands in its queue.
* `MemoryEngine.Step` lists what the engine can do in a cycle, with all that it counts. A cycle is a
  chain of such steps (`MemoryEngine.tick_steps`), and none of them changes the outlook
  (`MemoryEngine.Step.outlook_eq`).
-/

namespace RasterGpu

/-! ## Words -/

/-- The words of a burst and their addresses on the bus, in the order in which they are written. -/
def wordsAt (address : Nat) (data : List UInt16) : List (Nat × UInt16) :=
  data.mapIdx fun i word => ((address + i) % addressSpace, word)

/-- A burst is its first word and a burst after it. -/
theorem wordsAt_cons (address : Nat) (word : UInt16) (data : List UInt16) :
    wordsAt address (word :: data)
      = (address % addressSpace, word) :: wordsAt (address + 1) data := by
  have hnext : (fun i (word : UInt16) => ((address + (i + 1)) % addressSpace, word))
      = fun i word => ((address + 1 + i) % addressSpace, word) := by
    funext i word
    rw [Nat.add_right_comm, Nat.add_assoc]
  rw [wordsAt, List.mapIdx_cons, hnext]
  rfl

/-- Two bursts, the second of which goes on where the first ends. -/
theorem wordsAt_append (address : Nat) (data rest : List UInt16) :
    wordsAt address (data ++ rest)
      = wordsAt address data ++ wordsAt (address + data.length) rest := by
  induction data generalizing address with
  | nil => rfl
  | cons word data ih =>
    rw [List.cons_append, wordsAt_cons, wordsAt_cons, ih, List.cons_append, List.length_cons,
      Nat.add_right_comm, Nat.add_assoc]

/-- Bursts from addresses that are the same on the bus are the same. -/
theorem wordsAt_mod (address : Nat) (data : List UInt16) :
    wordsAt (address % addressSpace) data = wordsAt address data := by
  simp only [wordsAt, Nat.mod_add_mod]

/-- A burst has as many words as it has. -/
theorem length_wordsAt (address : Nat) (data : List UInt16) :
    (wordsAt address data).length = data.length :=
  List.length_mapIdx

/-- A burst writes its words, one after the other. -/
theorem Sdram.writeAll_wordsAt (m : Sdram) (address : Nat) (data : List UInt16) :
    m.writeAll (wordsAt address data) = m.store address data := by
  induction data generalizing m address with
  | nil => rfl
  | cons word data ih =>
    rw [wordsAt_cons, store_cons, ← ih, ← m.write_mod]
    rfl

/-- The words that a request writes. -/
def Request.writes : Request → List (Nat × UInt16)
  | read _ _ => []
  | write address data => wordsAt address data

/-- A request does to memory what its words do. -/
theorem Request.perform_eq_writeAll (request : Request) (m : Sdram) :
    (request.perform m).1 = m.writeAll request.writes := by
  cases request with
  | read address length => rfl
  | write address data => exact (m.writeAll_wordsAt address data).symm

/-! ## Programs -/

namespace MemoryCommand

/-- The words that a command writes: the four of a dword and the two of a timestamp, low half first,
and as many of a fill as it says. -/
def writes : MemoryCommand → List (Nat × UInt16)
  | store dword value => wordsAt (4 * dword) (dwordWords value)
  | readAhead _ => []
  | timestamp address cycles => wordsAt (2 * address) (timestampWords cycles)
  | fill f => wordsAt (surfaceStart f.base) (.replicate f.count f.value)

/-- The values that a command brings back. -/
def values (m : Sdram) : MemoryCommand → List UInt64
  | readAhead dword => [m.dword dword]
  | store _ _ | timestamp _ _ | fill _ => []

/-- The values that commands bring back, each of which finds the memory as the ones before leave
it. -/
def valuesOf : List MemoryCommand → Sdram → List UInt64
  | [], _ => []
  | c :: commands, m => c.values m ++ valuesOf commands (c.apply m)

/-- Whether a command fills at least one word. -/
def isLongFill : MemoryCommand → Bool
  | fill f => f.count != 0
  | store _ _ | readAhead _ | timestamp _ _ => false

end MemoryCommand

/-- The words that are left of a fill. -/
def FillProgress.writes (progress : FillProgress) : List (Nat × UInt16) :=
  wordsAt progress.address (.replicate progress.remaining progress.value)

/-- What is left of a fill is its next burst and what is left after it. -/
theorem FillProgress.writes_eq (progress : FillProgress) :
    progress.writes = progress.request.writes ++ progress.next.writes := by
  have hlength : progress.burst + (progress.remaining - progress.burst) = progress.remaining :=
    Nat.add_sub_of_le (Nat.min_le_left _ _)
  have hwords : List.replicate progress.remaining progress.value
      = .replicate progress.burst progress.value
        ++ .replicate (progress.remaining - progress.burst) progress.value := by
    rw [List.replicate_append_replicate, hlength]
  rw [writes, hwords, wordsAt_append, List.length_replicate, ← wordsAt_mod (_ + _)]
  rfl

/-! ## Outlooks -/

/-- What is still to come: words that are written, values that are brought back, and how far the
counters go up. -/
@[ext] structure Outlook where
  /-- The words, the next one first. -/
  writes : List (Nat × UInt16) := []
  /-- The values, the next one first. -/
  values : List UInt64 := []
  /-- Words counted as written. -/
  wordsWritten : Nat := 0
  /-- Words counted as read. -/
  wordsRead : Nat := 0
  /-- Fills counted. -/
  fillsCompleted : Nat := 0
  deriving DecidableEq, Repr

namespace Outlook

/-- One outlook and then another. -/
def append (first second : Outlook) : Outlook where
  writes := first.writes ++ second.writes
  values := first.values ++ second.values
  wordsWritten := first.wordsWritten + second.wordsWritten
  wordsRead := first.wordsRead + second.wordsRead
  fillsCompleted := first.fillsCompleted + second.fillsCompleted

instance : Append Outlook := ⟨append⟩

/-- Outlooks may be put together in any grouping. -/
theorem append_assoc (o o' o'' : Outlook) : o ++ o' ++ o'' = o ++ (o' ++ o'') := by
  ext1
  · exact List.append_assoc ..
  · exact List.append_assoc ..
  · exact Nat.add_assoc ..
  · exact Nat.add_assoc ..
  · exact Nat.add_assoc ..

/-- An empty outlook adds nothing. -/
theorem append_nothing (o : Outlook) : o ++ ({} : Outlook) = o := by
  ext1
  · exact List.append_nil _
  · exact List.append_nil _
  · rfl
  · rfl
  · rfl

/-- An empty outlook adds nothing. -/
theorem nothing_append (o : Outlook) : ({} : Outlook) ++ o = o := by
  ext1
  · rfl
  · rfl
  · exact Nat.zero_add _
  · exact Nat.zero_add _
  · exact Nat.zero_add _

/-- The outlook of a command. -/
def ofCommand (c : MemoryCommand) (m : Sdram) : Outlook where
  writes := c.writes
  values := c.values m
  wordsWritten := c.writes.length
  wordsRead := if c.isReadAhead then 4 else 0
  fillsCompleted := if c.isLongFill then 1 else 0

/-- The outlook of commands that are carried out one after the other. -/
def ofCommands : List MemoryCommand → Sdram → Outlook
  | [], _ => {}
  | c :: commands, m => ofCommand c m ++ ofCommands commands (c.apply m)

/-- The outlook of what is left of a fill. -/
def ofFill (progress : FillProgress) : Outlook where
  writes := progress.writes
  wordsWritten := progress.remaining
  fillsCompleted := 1

variable (commands : List MemoryCommand) (m : Sdram)

/-- More commands are carried out after the others, and find the memory as these leave it. -/
theorem ofCommands_append (more : List MemoryCommand) :
    ofCommands (commands ++ more) m
      = ofCommands commands m ++ ofCommands more (commands.foldl MemoryCommand.apply m) := by
  induction commands generalizing m with
  | nil => exact (nothing_append _).symm
  | cons c commands ih =>
    rw [List.cons_append, ofCommands, ofCommands, ih, append_assoc]
    rfl

/-- The words of commands are written in the order of the commands. -/
theorem writes_ofCommands :
    (ofCommands commands m).writes = commands.flatMap MemoryCommand.writes := by
  induction commands generalizing m with
  | nil => rfl
  | cons c commands ih => exact congrArg (c.writes ++ ·) (ih _)

/-- The values of commands are brought back in the order of the commands. -/
theorem values_ofCommands :
    (ofCommands commands m).values = MemoryCommand.valuesOf commands m := by
  induction commands generalizing m with
  | nil => rfl
  | cons c commands ih => exact congrArg (c.values m ++ ·) (ih _)

/-- All words are counted. -/
theorem wordsWritten_ofCommands :
    (ofCommands commands m).wordsWritten = (commands.flatMap MemoryCommand.writes).length := by
  induction commands generalizing m with
  | nil => rfl
  | cons c commands ih =>
    rw [List.flatMap_cons, List.length_append, ← ih (c.apply m)]
    rfl

/-- Every read-ahead reads four words. -/
theorem wordsRead_ofCommands :
    (ofCommands commands m).wordsRead = 4 * commands.countP MemoryCommand.isReadAhead := by
  induction commands generalizing m with
  | nil => rfl
  | cons c commands ih =>
    rw [List.countP_cons, Nat.mul_add, ← ih (c.apply m), Nat.add_comm, apply_ite (4 * ·)]
    rfl

/-- Every fill of at least one word is counted. -/
theorem fillsCompleted_ofCommands :
    (ofCommands commands m).fillsCompleted = commands.countP MemoryCommand.isLongFill := by
  induction commands generalizing m with
  | nil => rfl
  | cons c commands ih =>
    rw [List.countP_cons, ← ih (c.apply m), Nat.add_comm]
    rfl

end Outlook

/-- What a port answers, or will answer when its request is performed. -/
def Port.answer (p : Port) (m : Sdram) : List UInt16 :=
  match p with
  | .free => []
  | .pending request | .granted request => (request.perform m).2.data
  | .ready response => response.data

namespace MemoryEngine

/-- The words that the outstanding request brings back, if it reads. -/
def awaited? (e : MemoryEngine) (p : Port) (m : Sdram) : Option (List UInt16) :=
  if e.outstanding = some .readAhead then some (p.answer m) else none

/-- The outlook of the outstanding request. The words of a write are counted when it is submitted,
those of a read when its response is collected. -/
def underway (e : MemoryEngine) (p : Port) (m : Sdram) : Outlook where
  writes := p.requests.flatMap Request.writes
  values := e.fetched.toList ++ ((e.awaited? p m).map dwordOfWords).toList
  wordsWritten := e.stats.wordsWritten
  wordsRead := e.stats.wordsRead + (e.awaited? p m).elim 0 List.length
  fillsCompleted := e.stats.fillsCompleted

/-- The outlook of the engine, added to what its counters show. -/
def outlook (e : MemoryEngine) (p : Port) (m : Sdram) : Outlook :=
  e.underway p m ++ e.fill.elim {} .ofFill
    ++ .ofCommands e.queue.toList (e.fill.elim (p.finish m) (·.apply (p.finish m)))

/-! ## Steps -/

/-- What the engine can do in a cycle, and what it counts on the way. -/
inductive Step : MemoryEngine × Port → MemoryEngine × Port → Prop where
  /-- It collects a response. -/
  | collect {e : MemoryEngine} {kind : EngineRequest} {response : Response}
    (ho : e.outstanding = some kind) (hf : e.fetched = none) :
    Step (e, .ready response) (e.collect kind response, .free)
  /-- It ends a fill. -/
  | finish {e : MemoryEngine} {progress : FillProgress} (ho : e.outstanding = none)
    (hfill : e.fill = some progress) (hr : progress.remaining = 0) :
    Step (e, .free)
      ({ e with fill := none, stats.fillsCompleted := e.stats.fillsCompleted + 1 }, .free)
  /-- It asks for the next burst of a fill. -/
  | burst {e : MemoryEngine} {progress : FillProgress} (ho : e.outstanding = none)
    (hfill : e.fill = some progress) (hr : progress.remaining ≠ 0) :
    Step (e, .free)
      ({ e with
          fill := some progress.next
          outstanding := some .store
          stats.wordsWritten := e.stats.wordsWritten + progress.burst },
        .pending progress.request)
  /-- It starts a command that makes one request. -/
  | issue {e : MemoryEngine} {command : MemoryCommand} {queue : Queue MemoryCommand}
    {request : Request} (ho : e.outstanding = none) (hfill : e.fill = none)
    (hq : e.queue.toList = command :: queue.toList) (hr : command.request? = some request) :
    Step (e, .free)
      ({ e with
          queue
          outstanding := command.kind?
          stats.wordsWritten := e.stats.wordsWritten + command.writes.length },
        .pending request)
  /-- It starts a fill. -/
  | fill {e : MemoryEngine} {f : Fill} {queue : Queue MemoryCommand} (ho : e.outstanding = none)
    (hfill : e.fill = none) (hq : e.queue.toList = .fill f :: queue.toList) (hcount : f.count ≠ 0) :
    Step (e, .free) ({ e with queue, fill := some (.ofFill f) }, .free)
  /-- It passes over a fill of no words. -/
  | skip {e : MemoryEngine} {f : Fill} {queue : Queue MemoryCommand} (ho : e.outstanding = none)
    (hfill : e.fill = none) (hq : e.queue.toList = .fill f :: queue.toList) (hcount : f.count = 0) :
    Step (e, .free) ({ e with queue }, .free)

/-- A chain of steps. -/
abbrev Steps : MemoryEngine × Port → MemoryEngine × Port → Prop :=
  Relation.ReflTransGen Step

variable {e : MemoryEngine} {a : Arbiter}

/-- On a free port a request is counted, outstanding and pending. -/
theorem issue_store (hfree : a.port .engine = .free) (request : Request) :
    (e.issue a .store request).1 = { e with
        outstanding := some .store
        stats.wordsWritten := e.stats.wordsWritten + request.beats }
      ∧ (e.issue a .store request).2.port .engine = .pending request := by
  obtain ⟨a', hs⟩ := Arbiter.submit?_of_free hfree request
  unfold issue
  dsimp only
  rw [hs]
  exact ⟨rfl, by rw [Arbiter.port_submit? hs, Function.update_self]⟩

/-- On a free port a read is outstanding and pending. -/
theorem issue_readAhead (hfree : a.port .engine = .free) (request : Request) :
    (e.issue a .readAhead request).1 = { e with outstanding := some .readAhead }
      ∧ (e.issue a .readAhead request).2.port .engine = .pending request := by
  obtain ⟨a', hs⟩ := Arbiter.submit?_of_free hfree request
  unfold issue
  dsimp only
  rw [hs]
  exact ⟨rfl, by rw [Arbiter.port_submit? hs, Function.update_self]⟩

/-- With no fill under way the engine starts its oldest command. -/
theorem start_steps (hfree : a.port .engine = .free) (ho : e.outstanding = none)
    (hfill : e.fill = none) :
    Steps (e, a.port .engine) ((e.start a).1, (e.start a).2.port .engine) := by
  unfold start
  split
  · exact .refl
  · rename_i command queue hq
    have hlist := Queue.pop?_eq_some hq
    have hstore (request : Request) (hr : command.request? = some request)
        (hk : command.kind? = some .store) (hbeats : request.beats = command.writes.length) :
        Steps (e, .free) ((issue { e with queue } a .store request).1,
          (issue { e with queue } a .store request).2.port .engine) := by
      obtain ⟨hengine, hport⟩ := issue_store (e := { e with queue }) hfree request
      rw [hengine, hport, hbeats, ← hk]
      exact .single (.issue ho hfill hlist hr)
    rw [hfree]
    dsimp only
    split
    · exact hstore _ rfl rfl rfl
    · rename_i dword
      obtain ⟨hengine, hport⟩ := issue_readAhead (e := { e with queue }) hfree (.read (4 * dword) 4)
      rw [hengine, hport]
      exact .single (.issue ho hfill hlist rfl)
    · exact hstore _ rfl rfl rfl
    · split
      · rename_i hcount
        rw [hfree]
        exact .single (.skip ho hfill hlist hcount)
      · rename_i hcount
        rw [hfree]
        exact .single (.fill ho hfill hlist hcount)

/-- On a free port the engine goes on, on another it waits. -/
theorem advance_steps (ho : e.outstanding = none) :
    Steps (e, a.port .engine) ((e.advance a).1, (e.advance a).2.port .engine) := by
  unfold advance
  split
  · rename_i hfree
    rw [a.isFree_iff] at hfree
    split
    · rename_i hfill
      exact start_steps hfree ho hfill
    · rename_i progress hfill
      split
      · rename_i hr
        -- the fill ends, and the next command starts in the same cycle
        have hstart := start_steps (e := { e with
          fill := none, stats.fillsCompleted := e.stats.fillsCompleted + 1 }) hfree ho rfl
        rw [hfree] at hstart ⊢
        exact .head (.finish ho hfill hr) hstart
      · rename_i hr
        have hbeats : progress.request.beats = progress.burst := by
          have hle : progress.burst ≤ fillBurstWords := Nat.min_le_right _ _
          have hpos : 0 < progress.burst := Nat.lt_min.2 ⟨Nat.pos_of_ne_zero hr, by decide⟩
          rw [FillProgress.request, Request.beats, List.length_replicate]
          simp only [fillBurstWords] at hle
          omega
        obtain ⟨hengine, hport⟩ := issue_store (e := { e with fill := some progress.next }) hfree
          progress.request
        rw [hbeats] at hengine
        change Steps _ ((issue { e with fill := some progress.next } a .store progress.request).1,
          (issue { e with fill := some progress.next } a .store progress.request).2.port .engine)
        rw [hengine, hport, hfree]
        exact .single (.burst ho hfill hr)
  · exact .refl

/-- **A cycle of the memory engine is a chain of its steps.** -/
theorem tick_steps (hw : a.WellFormed) (hf : e.fetched = none) :
    Steps (e, a.port .engine) ((e.tick a).1, (e.tick a).2.port .engine) := by
  unfold tick
  split
  · rename_i ho
    exact advance_steps ho
  · rename_i kind ho
    split
    · exact .refl
    · rename_i response a' ht
      have hready : a.port .engine = .ready response := (Arbiter.take?_eq_some ht).1
      have hfree : a'.port .engine = .free := by
        rw [Arbiter.port_take? hw ht, Function.update_self]
      have hnone : (e.collect kind response).outstanding = none := by cases kind <;> rfl
      have hrest := advance_steps (a := a') hnone
      rw [hfree] at hrest
      rw [hready]
      exact .head (.collect ho hf) hrest

/-! ## Steps do not change the outlook -/

/-- An engine without a request waits for nothing. -/
theorem awaited?_of_none (ho : e.outstanding = none) (p : Port) (m : Sdram) :
    e.awaited? p m = none := by
  rw [awaited?, ho]
  rfl

/-- A command that is asked for is underway. -/
theorem underway_issue {command : MemoryCommand} {request : Request} {queue : Queue MemoryCommand}
    (ho : e.outstanding = none) (hr : command.request? = some request) (m : Sdram) :
    underway { e with
        queue
        outstanding := command.kind?
        stats.wordsWritten := e.stats.wordsWritten + command.writes.length } (.pending request) m
      = e.underway .free m ++ .ofCommand command m := by
  unfold underway
  rw [awaited?_of_none ho]
  cases command with
  | fill f => cases hr
  | store dword value =>
    obtain rfl := Option.some.inj hr
    ext1
    · exact List.append_nil _
    · exact (List.append_nil _).symm
    · rfl
    · rfl
    · rfl
  | timestamp address cycles =>
    obtain rfl := Option.some.inj hr
    ext1
    · exact List.append_nil _
    · exact (List.append_nil _).symm
    · rfl
    · rfl
    · rfl
  | readAhead dword =>
    obtain rfl := Option.some.inj hr
    have hvalue : e.fetched.toList ++ [dwordOfWords (m.fetch (4 * dword) 4)]
        = e.fetched.toList ++ [] ++ [m.dword dword] := by
      rw [m.dwordOfWords_fetch, List.append_nil]
    exact Outlook.ext rfl hvalue rfl rfl rfl

/-- A burst that is asked for is underway. -/
theorem underway_burst {progress : FillProgress} (ho : e.outstanding = none) (m : Sdram) :
    underway { e with
        fill := some progress.next
        outstanding := some .store
        stats.wordsWritten := e.stats.wordsWritten + progress.burst } (.pending progress.request) m
      ++ .ofFill progress.next
      = e.underway .free m ++ .ofFill progress := by
  have hle : progress.burst ≤ progress.remaining := Nat.min_le_left _ _
  unfold underway
  rw [awaited?_of_none ho]
  ext1
  · change progress.request.writes ++ [] ++ progress.next.writes = progress.writes
    rw [List.append_nil, progress.writes_eq]
  · rfl
  · change e.stats.wordsWritten + progress.burst + (progress.remaining - progress.burst)
      = e.stats.wordsWritten + progress.remaining
    omega
  · rfl
  · rfl

/-- **A step changes nothing about what will come.** -/
theorem Step.outlook_eq {e e' : MemoryEngine} {p p' : Port} (h : Step (e, p) (e', p'))
    (m : Sdram) : e'.outlook p' m = e.outlook p m := by
  cases h with
  | @collect _ kind response ho hf =>
    have hunderway :
        (e.collect kind response).underway .free m = e.underway (.ready response) m := by
      unfold underway awaited?
      rw [ho, hf]
      cases kind with
      | store =>
        have hsame : (e.collect .store response).fetched = none := hf
        rw [hsame]
        rfl
      | readAhead => rfl
    unfold outlook
    rw [hunderway]
    cases kind <;> rfl
  | @finish _ progress ho hfill hr =>
    have hlast : Outlook.ofFill progress = { fillsCompleted := 1 } := by
      rw [Outlook.ofFill, FillProgress.writes, hr]
      rfl
    unfold outlook
    rw [hfill, Option.elim_some, Option.elim_some, hlast, FillProgress.apply_of_remaining hr]
    rfl
  | @burst _ progress ho hfill hr =>
    unfold outlook
    rw [hfill, Option.elim_some, Option.elim_some, Option.elim_some, Option.elim_some,
      underway_burst ho]
    exact congrArg (fun m => _ ++ Outlook.ofCommands e.queue.toList m) (progress.apply_next m)
  | @issue _ command queue request ho hfill hq hr =>
    unfold outlook
    rw [underway_issue ho hr, hfill, hq, Outlook.ofCommands, Option.elim_none, Option.elim_none,
      Outlook.append_nothing, Outlook.append_nothing, Outlook.append_assoc]
    exact congrArg (fun m => _ ++ (_ ++ Outlook.ofCommands queue.toList m))
      (EngineView.perform_request? hr m)
  | @fill _ f queue ho hfill hq hcount =>
    have hcommand : Outlook.ofFill (.ofFill f) = .ofCommand (.fill f) m := by
      have hlong : MemoryCommand.isLongFill (.fill f) = true := bne_iff_ne.2 hcount
      rw [Outlook.ofCommand, hlong]
      exact Outlook.ext rfl rfl ((length_wordsAt _ _).trans List.length_replicate).symm rfl rfl
    unfold outlook
    rw [hfill, hq, Option.elim_none, Option.elim_some, Option.elim_some, Outlook.append_nothing,
      hcommand, FillProgress.apply_ofFill, Outlook.append_assoc]
    rfl
  | @skip _ f queue ho hfill hq hcount =>
    have hcommand : Outlook.ofCommand (.fill f) m = {} := by
      rw [Outlook.ofCommand, MemoryCommand.writes, MemoryCommand.isLongFill, hcount]
      rfl
    have hmemory : MemoryCommand.apply m (.fill f) = m := by
      rw [MemoryCommand.apply, Fill.apply, hcount]
      rfl
    unfold outlook
    rw [hfill, hq, Option.elim_none, Option.elim_none, Outlook.ofCommands]
    change _ = _ ++ (Outlook.ofCommand (.fill f) m ++ Outlook.ofCommands queue.toList _)
    rw [hcommand, Outlook.nothing_append]
    exact congrArg (fun m => _ ++ Outlook.ofCommands queue.toList m) hmemory.symm

end MemoryEngine

end RasterGpu
