import Mathlib.Data.List.Chain
import Mathlib.Data.List.DropRight
import LogHarvest.Proofs.PatternFile
import LogHarvest.Proofs.Template.Reading

/-!
# Sessions of a writer

A writer may be opened again after it has been closed: the file is emptied, the count goes on. What
calls of a writer come to is told as a history of events. However the calls go on, as long as the
file is opened and closed in turn, the history says how many statements have been counted and what a
closed file holds.
-/

namespace LogHarvest

open Text.Utf8 (encoding)

namespace PatternFile.Writer

/-! ### Calls and what they come to -/

/-- A writer and the tree that its file is in. -/
structure State where
  writer : Writer
  tree : FileTree

/-- What can be asked of a writer. -/
inductive Call where
  | openFile
  | close
  | write (s : Statement)
  | writeAll (ss : List Statement)

/-- What calls come to. A statement has been written only if no error was raised for it. -/
inductive Event where
  | opened
  | closed
  | wrote (s : Statement)
  | failed (fault : Fault)

/-- The statements that can be written one after the other, up to the first that cannot. -/
def taken (w : Writer) : List Statement → List Statement
  | [] => []
  | s :: rest =>
    match w.write s with
    | .ok w => s :: taken w rest
    | .error _ => []

namespace State

def call (st : State) : Call → State × List Event
  | .openFile =>
    match st.writer.openFile st.tree with
    | .ok (w, tree) => (⟨w, tree⟩, [.opened])
    | .error e => (st, [.failed e])
  | .close => (⟨(st.writer.close st.tree).1, (st.writer.close st.tree).2⟩, [.closed])
  | .write s =>
    match st.writer.write s with
    | .ok w => (⟨w, st.tree⟩, [.wrote s])
    | .error e => (st, [.failed e])
  | .writeAll ss =>
    (⟨(st.writer.writeAll ss).1, st.tree⟩,
      (st.writer.taken ss).map .wrote ++ ((st.writer.writeAll ss).2.map .failed).toList)

/-- Some calls one after the other, with the events of all of them. -/
def run (st : State) : List Call → State × List Event
  | [] => (st, [])
  | c :: rest =>
    let (st, events) := st.call c
    let (st, later) := run st rest
    (st, events ++ later)

end State

/-! ### Histories -/

/-- Whether an event leaves the file open, if it says so. -/
def Event.turn? : Event → Option Bool
  | .opened => some true
  | .closed => some false
  | _ => none

def Event.statement? : Event → Option Statement
  | .wrote s => some s
  | _ => none

section History

/-- The openings and closings of a history. -/
def turns (events : List Event) : List Bool := events.filterMap Event.turn?

/-- From a closed file on, it is opened and closed in turn. -/
def Alternating (events : List Event) : Prop := (false :: turns events).IsChain (· ≠ ·)

/-- A history leaves the file open. -/
def endsOpen (events : List Event) : Bool := (turns events).getLastD false

/-- The statements that have been written. -/
def written (events : List Event) : List Statement := events.filterMap Event.statement?

/-- The statements that have been written since the file was last opened. -/
def session (events : List Event) : List Statement :=
  written (events.rtakeWhile fun e => e.turn? != some true)

variable {events later : List Event} {e : Event}

theorem Alternating.left_of_append (h : Alternating (events ++ later)) : Alternating events := by
  rw [Alternating, turns, List.filterMap_append, ← List.cons_append] at h
  exact h.left_of_append

/-- An event that opens or closes the file finds it the other way. -/
theorem Alternating.endsOpen_ne {isOpen : Bool} (h : Alternating (events ++ [e]))
    (he : e.turn? = some isOpen) : endsOpen events ≠ isOpen := by
  have hturns : turns (events ++ [e]) = turns events ++ [isOpen] := by
    simp [turns, he]
  rw [Alternating, hturns, ← List.cons_append, List.isChain_append] at h
  refine h.2.2 _ ?_ isOpen rfl
  simp [endsOpen, List.getLast?_cons]

theorem endsOpen_concat (events : List Event) (e : Event) :
    endsOpen (events ++ [e]) = e.turn?.getD (endsOpen events) := by
  cases he : e.turn? <;> simp [endsOpen, turns, he]

theorem written_concat (events : List Event) (e : Event) :
    written (events ++ [e]) = written events ++ e.statement?.toList := by
  cases he : e.statement? <;> simp [written, he]

theorem written_concat_of_none (events : List Event) (he : e.statement? = none) :
    written (events ++ [e]) = written events := by
  rw [written_concat, he]
  exact List.append_nil _

theorem session_concat (events : List Event) (e : Event) :
    session (events ++ [e]) =
      if e.turn? = some true then [] else session events ++ e.statement?.toList := by
  rw [session, List.rtakeWhile_concat]
  by_cases he : e.turn? = some true
  · simp [he, written]
  · simp [he, written_concat, session]

end History

/-! ### What calls preserve -/

variable {path : Text} {events : List Event} {st : State} {w w' : Writer}

/-- What a history says about a writer at a path: how many statements it has counted, what it holds
if it is open, and what its file holds if it has been closed. An open file is still empty. -/
structure Keeps (path : Text) (events : List Event) (st : State) : Prop where
  path_eq : st.writer.path = path
  count_eq : st.writer.count = (written events).length
  pending_eq : st.writer.pending =
    if endsOpen events then some (encoding (recordsText (session events))) else none
  emptied : endsOpen events = true → ∃ before : FileTree, before.putFile path [] = .ok st.tree
  filed : endsOpen events = false → .closed ∈ events →
    st.tree.bytesAt path = .ok (encoding (recordsText (session events)))

theorem keeps_new (path : Text) (tree : FileTree) : Keeps (Path.tidy path) [] ⟨new path, tree⟩ :=
  ⟨rfl, rfl, rfl, fun h => absurd h (by decide), fun _ h => absurd h List.not_mem_nil⟩

theorem Keeps.isOpen_eq (h : Keeps path events st) : st.writer.isOpen = endsOpen events := by
  rw [isOpen, h.pending_eq]
  cases endsOpen events <;> rfl

theorem Keeps.pending_of_endsOpen (h : Keeps path events st) (hends : endsOpen events = true) :
    st.writer.pending = some (encoding (recordsText (session events))) := by
  rw [h.pending_eq, hends, if_pos rfl]

/-- Opening puts what a writer held into its file, which is nothing if it was closed. -/
theorem putFile_of_openFile {tree opened : FileTree} (h : w.openFile tree = .ok (w', opened)) :
    w' = { w with pending := some [] } ∧
      tree.putFile w.path (w.pending.getD []) = .ok opened := by
  rw [openFile] at h
  split at h
  · next tree' hput =>
    obtain ⟨rfl, rfl⟩ := Prod.mk.inj (Except.ok.inj h)
    exact ⟨rfl, hput⟩
  · simp at h

theorem Keeps.opened {opened : FileTree} (h : Keeps path events st)
    (hends : endsOpen events = false) (hopen : st.writer.openFile st.tree = .ok (w', opened)) :
    Keeps path (events ++ [.opened]) ⟨w', opened⟩ := by
  obtain ⟨rfl, hput⟩ := putFile_of_openFile hopen
  have hpending : st.writer.pending = none := by rw [h.pending_eq, hends]; rfl
  rw [hpending, Option.getD_none, h.path_eq] at hput
  have hopened : endsOpen (events ++ [.opened]) = true := endsOpen_concat events _
  refine ⟨h.path_eq, ?_, ?_, fun _ => ⟨st.tree, hput⟩, fun hclosed => ?_⟩
  · rw [written_concat_of_none events rfl, h.count_eq]
  · rw [hopened, session_concat]
    rfl
  · exact absurd (hopened.symm.trans hclosed) (by decide)

theorem close_writer (w : Writer) (tree : FileTree) :
    (w.close tree).1 = { w with pending := none } := by
  unfold close
  split
  · next hpending => rw [← hpending]
  · dsimp only
    split
    · rfl
    · split <;> rfl

theorem Keeps.closed (h : Keeps path events st) (hends : endsOpen events = true) :
    Keeps path (events ++ [.closed])
      ⟨(st.writer.close st.tree).1, (st.writer.close st.tree).2⟩ := by
  obtain ⟨before, hput⟩ := h.emptied hends
  have hclosed : endsOpen (events ++ [.closed]) = false := endsOpen_concat events _
  have hsession : session (events ++ [.closed]) = session events :=
    (session_concat events _).trans (List.append_nil _)
  refine ⟨?_, ?_, ?_, fun hopen => ?_, fun _ _ => ?_⟩
  · rw [close_writer, h.path_eq]
  · rw [count_close, h.count_eq, written_concat_of_none events rfl]
  · rw [close_writer, hclosed]
    rfl
  · exact absurd (hclosed.symm.trans hopen) (by decide)
  · have hbytes := bytesAt_close (h.pending_of_endsOpen hends) (h.path_eq ▸ hput)
    rw [h.path_eq] at hbytes
    rw [hbytes, hsession]

theorem write_of_not_isOpen (hw : w.isOpen = false) (s : Statement) :
    w.write s = .error .notOpened := by
  have hpending : w.pending = none := by simpa [isOpen] using hw
  simp only [write, hpending]

theorem Keeps.wrote {s : Statement} (h : Keeps path events st) (hw : st.writer.write s = .ok w') :
    Keeps path (events ++ [.wrote s]) ⟨w', st.tree⟩ := by
  -- A writer that takes a statement is open.
  have hends : endsOpen events = true := by
    by_contra hends
    have hclosed := h.isOpen_eq.trans (Bool.eq_false_iff.2 hends)
    rw [write_of_not_isOpen hclosed] at hw
    simp at hw
  have htakes := takes_of_write hw
  have hopen : endsOpen (events ++ [.wrote s]) = true := (endsOpen_concat events _).trans hends
  have hsession : session (events ++ [.wrote s]) = session events ++ [s] := session_concat events _
  refine ⟨htakes.path.trans h.path_eq, ?_, ?_, fun _ => h.emptied hends, fun hclosed => ?_⟩
  · rw [htakes.count, h.count_eq, written_concat, List.length_append]
    rfl
  · rw [htakes.pending, h.pending_of_endsOpen hends, hopen, if_pos rfl, hsession,
      recordsText_append, Text.Utf8.encoding_append]
    rfl
  · exact absurd (hopen.symm.trans hclosed) (by decide)

theorem Keeps.failed (h : Keeps path events st) (fault : Fault) :
    Keeps path (events ++ [.failed fault]) st := by
  have hends : endsOpen (events ++ [.failed fault]) = endsOpen events := endsOpen_concat events _
  have hsession : session (events ++ [.failed fault]) = session events :=
    (session_concat events _).trans (List.append_nil _)
  refine ⟨h.path_eq, ?_, ?_, ?_, ?_⟩
  · rw [written_concat_of_none events rfl, h.count_eq]
  · rw [hends, hsession, h.pending_eq]
  · rw [hends]
    exact h.emptied
  · rw [hends, hsession]
    exact fun hclosed hmem => h.filed hclosed (by simpa using hmem)

/-- A batch does what writing its statements one by one does. -/
theorem call_writeAll_cons {s : Statement} {ss : List Statement} (hw : st.writer.write s = .ok w') :
    st.call (.writeAll (s :: ss)) =
      ((State.call ⟨w', st.tree⟩ (.writeAll ss)).1,
        .wrote s :: (State.call ⟨w', st.tree⟩ (.writeAll ss)).2) := by
  simp only [State.call, writeAll, taken, hw, List.map_cons, List.cons_append]

theorem call_writeAll_of_error {s : Statement} {ss : List Statement} {fault : Fault}
    (hw : st.writer.write s = .error fault) :
    st.call (.writeAll (s :: ss)) = (st, [.failed fault]) := by
  simp only [State.call, writeAll, taken, hw]
  rfl

theorem Keeps.writeAll {ss : List Statement} (h : Keeps path events st) :
    Keeps path (events ++ (st.call (.writeAll ss)).2) (st.call (.writeAll ss)).1 := by
  induction ss generalizing st events with
  | nil => simpa [State.call, taken, Writer.writeAll] using h
  | cons s ss ih =>
      cases hw : st.writer.write s with
      | error fault =>
          rw [call_writeAll_of_error hw]
          exact h.failed fault
      | ok w =>
          rw [call_writeAll_cons hw]
          dsimp only
          rw [List.append_cons]
          exact ih (h.wrote hw)

/-- Each call preserves what a history says, unless the file is opened twice or closed twice. -/
theorem Keeps.call {c : Call} (h : Keeps path events st)
    (halternating : Alternating (events ++ (st.call c).2)) :
    Keeps path (events ++ (st.call c).2) (st.call c).1 := by
  cases c with
  | openFile =>
      cases hopen : st.writer.openFile st.tree with
      | error fault =>
          simp only [State.call, hopen]
          exact h.failed fault
      | ok opened =>
          simp only [State.call, hopen] at halternating ⊢
          exact h.opened (Bool.eq_false_iff.2 (halternating.endsOpen_ne rfl)) hopen
  | close => exact h.closed (Bool.ne_false_iff.1 (halternating.endsOpen_ne rfl))
  | write s =>
      cases hw : st.writer.write s with
      | error fault =>
          simp only [State.call, hw]
          exact h.failed fault
      | ok w =>
          simp only [State.call, hw]
          exact h.wrote hw
  | writeAll ss => exact h.writeAll

theorem Keeps.run {calls : List Call} (h : Keeps path events st)
    (halternating : Alternating (events ++ (st.run calls).2)) :
    Keeps path (events ++ (st.run calls).2) (st.run calls).1 := by
  induction calls generalizing st events with
  | nil => simpa [State.run] using h
  | cons c rest ih =>
      rw [State.run, ← List.append_assoc] at halternating ⊢
      exact ih (h.call halternating.left_of_append) halternating

/-! ### Opening again -/

/-- Whatever is called, a file that could be written can be written. -/
theorem call_canWrite {c : Call} (hpath : st.writer.path = Path.tidy path)
    (h : st.tree.CanWrite path) :
    (st.call c).1.writer.path = Path.tidy path ∧ (st.call c).1.tree.CanWrite path := by
  cases c with
  | openFile =>
      cases hopen : st.writer.openFile st.tree with
      | error fault =>
          simp only [State.call, hopen]
          exact ⟨hpath, h⟩
      | ok opened =>
          obtain ⟨w, tree⟩ := opened
          obtain ⟨rfl, hput⟩ := putFile_of_openFile hopen
          rw [hpath] at hput
          simp only [State.call, hopen]
          exact ⟨hpath, FileTree.exists_putFile_again hput []⟩
  | close =>
      refine ⟨by rw [State.call, close_writer, hpath], ?_⟩
      obtain hsame | ⟨bytes, hput⟩ := close_tree st.writer st.tree
      · rw [State.call, hsame]
        exact h
      · rw [hpath] at hput
        exact FileTree.exists_putFile_again hput []
  | write s =>
      cases hw : st.writer.write s with
      | error fault =>
          simp only [State.call, hw]
          exact ⟨hpath, h⟩
      | ok w =>
          simp only [State.call, hw]
          exact ⟨(takes_of_write hw).path.trans hpath, h⟩
  | writeAll ss => exact ⟨(writeAll_path st.writer ss).trans hpath, h⟩

theorem run_canWrite {calls : List Call} (hpath : st.writer.path = Path.tidy path)
    (h : st.tree.CanWrite path) :
    (st.run calls).1.writer.path = Path.tidy path ∧ (st.run calls).1.tree.CanWrite path := by
  induction calls generalizing st with
  | nil => exact ⟨hpath, h⟩
  | cons c rest ih =>
      obtain ⟨hpath', h'⟩ := call_canWrite (c := c) hpath h
      exact ih hpath' h'

theorem call_openFile_of_canWrite (hpath : st.writer.path = Path.tidy path)
    (hw : st.writer.isOpen = false) (h : st.tree.CanWrite path) :
    ∃ after, st.call .openFile = (after, [.opened]) := by
  obtain ⟨opened, hput⟩ := h
  have hpending : st.writer.pending = none := by simpa [isOpen] using hw
  have hopen : st.writer.openFile st.tree =
      .ok ({ st.writer with pending := some [] }, opened) := by
    simp only [openFile, hpending, Option.getD_none, hpath, hput]
  exact ⟨_, by simp only [State.call, hopen]; rfl⟩

/-! ### Writes that fail -/

theorem call_write_of_not_isOpen (hw : st.writer.isOpen = false) (s : Statement) :
    st.call (.write s) = (st, [.failed .notOpened]) := by
  simp only [State.call, write_of_not_isOpen hw]

theorem call_write_of_encodable {s : Statement} (hw : st.writer.isOpen = true)
    (hs : Encodable [s]) : ∃ after, st.call (.write s) = (after, [.wrote s]) := by
  obtain ⟨w, hwrite⟩ := exists_write_eq hw hs
  exact ⟨⟨w, st.tree⟩, by simp only [State.call, hwrite]⟩

theorem call_write_of_not_encodable {s : Statement} (hw : st.writer.isOpen = true)
    (hs : ¬Encodable [s]) : ∃ e, Text.Utf8.encode s.toRecord = .error e ∧
      st.call (.write s) = (st, [.failed (.encode e)]) := by
  obtain ⟨bytes, hpending⟩ := Option.isSome_iff_exists.1 hw
  cases hrecord : Text.Utf8.encode s.toRecord with
  | ok record =>
      refine absurd ?_ hs
      simpa [Encodable] using (Text.Utf8.encode_eq_ok_iff.1 hrecord).1
  | error e => exact ⟨e, rfl, by simp only [State.call, write, hpending, hrecord]⟩

/-- A batch is written to its end or up to a statement that cannot be written. -/
theorem call_writeAll (st : State) (ss : List Statement) :
    (st.call (.writeAll ss)).2 = ss.map .wrote ∨
      ∃ before s others after fault, ss = before ++ s :: others ∧
        st.call (.writeAll before) = (after, before.map .wrote) ∧
        after.call (.write s) = (after, [.failed fault]) ∧
        st.call (.writeAll ss) = (after, before.map .wrote ++ [.failed fault]) := by
  induction ss generalizing st with
  | nil => exact .inl rfl
  | cons s ss ih =>
      cases hw : st.writer.write s with
      | error fault =>
          exact .inr ⟨[], s, ss, st, fault, rfl, rfl, by simp only [State.call, hw],
            call_writeAll_of_error hw⟩
      | ok w =>
          obtain hall | ⟨before, t, others, after, fault, rfl, hbefore, ht, hss⟩ := ih ⟨w, st.tree⟩
          · exact .inl (by rw [call_writeAll_cons hw, hall]; rfl)
          · refine .inr ⟨s :: before, t, others, after, fault, rfl, ?_, ht, ?_⟩
            · rw [call_writeAll_cons hw, hbefore]
              rfl
            · rw [call_writeAll_cons hw, hss]
              rfl

/-! ### Runs -/

/-- A writer that is opened and closed in turn, whatever is written in between, has counted all
statements that were written without an error, and after each close its file holds the records of
those that were written since it was opened, one a line. A write to a writer that is not open fails,
as does one of a record that cannot be encoded, and neither leaves a trace. A batch fails at the
statement that cannot be written and has written those before it. A file that could be opened at the
start can be opened after each close. -/
theorem run_sessions {start : FileTree} {calls : List Call}
    (hrun : State.run ⟨new path, start⟩ calls = (st, events)) (halternating : Alternating events) :
    st.writer.isOpen = endsOpen events ∧
      st.writer.count = (written events).length ∧
      (endsOpen events = false → .closed ∈ events →
        st.tree.bytesAt (Path.tidy path) = .ok (encoding (recordsText (session events)))) ∧
      (∀ s, (endsOpen events = false → st.call (.write s) = (st, [.failed .notOpened])) ∧
        (endsOpen events = true → Encodable [s] →
          ∃ after, st.call (.write s) = (after, [.wrote s])) ∧
        (endsOpen events = true → ¬Encodable [s] → ∃ e, Text.Utf8.encode s.toRecord = .error e ∧
          st.call (.write s) = (st, [.failed (.encode e)]))) ∧
      (∀ ss, (st.call (.writeAll ss)).2 = ss.map .wrote ∨
        ∃ before s others after fault, ss = before ++ s :: others ∧
          st.call (.writeAll before) = (after, before.map .wrote) ∧
          after.call (.write s) = (after, [.failed fault]) ∧
          st.call (.writeAll ss) = (after, before.map .wrote ++ [.failed fault])) ∧
      (start.CanWrite path → endsOpen events = false →
        ∃ after, st.call .openFile = (after, [.opened])) := by
  have hkeeps : Keeps (Path.tidy path) ([] ++ (State.run ⟨new path, start⟩ calls).2)
      (State.run ⟨new path, start⟩ calls).1 :=
    (keeps_new path start).run (by rwa [hrun])
  rw [hrun] at hkeeps
  have hopen := hkeeps.isOpen_eq
  refine ⟨hopen, hkeeps.count_eq, hkeeps.filed, fun s =>
    ⟨fun hends => call_write_of_not_isOpen (hopen.trans hends) s,
      fun hends => call_write_of_encodable (hopen.trans hends),
      fun hends => call_write_of_not_encodable (hopen.trans hends)⟩, call_writeAll st,
    fun hcan hends => ?_⟩
  obtain ⟨hpath, hcan⟩ := @run_canWrite path ⟨new path, start⟩ calls rfl hcan
  rw [hrun] at hpath hcan
  exact call_openFile_of_canWrite hpath (hopen.trans hends) hcan

/-- A statement whose record holds a surrogate, and two that can be written. -/
def unencodable : Statement := ⟨[⟨0xD800⟩], ['A'], Template.pattern []⟩

def upStatement : Statement := ⟨"info", ['A'], Template.pattern "up"⟩

def downStatement : Statement := ⟨[], ['B'], Template.pattern "down"⟩

/-- Two sessions with a failure in each, and writes before, between and after them. -/
def twoSessions : List Call :=
  [.write upStatement, .openFile, .writeAll [upStatement, downStatement, unencodable, upStatement],
    .close, .writeAll [upStatement], .openFile, .write unencodable, .write downStatement, .close]

def twoSessionsEvents : List Event :=
  [.failed .notOpened, .opened, .wrote upStatement, .wrote downStatement,
    .failed (.encode ⟨0, 1, ⟨0xD800⟩⟩), .closed, .failed .notOpened, .opened,
    .failed (.encode ⟨0, 1, ⟨0xD800⟩⟩), .wrote downStatement, .closed]

theorem run_sessions_twoSessions :
    ∃ st, State.run ⟨new ['p'], ⟨.dir [], [], []⟩⟩ twoSessions = (st, twoSessionsEvents) ∧
      Alternating twoSessionsEvents ∧ st.writer.count = 3 ∧
      st.tree.bytesAt ['p'] = .ok (encoding "|B|down\n") ∧
      st.call (.write upStatement) = (st, [.failed .notOpened]) ∧
      ∃ after, st.call .openFile = (after, [.opened]) := by
  have hrun : State.run ⟨new ['p'], ⟨.dir [], [], []⟩⟩ twoSessions = (_, twoSessionsEvents) := rfl
  have halternating : Alternating twoSessionsEvents := by
    rw [Alternating]
    decide
  obtain ⟨-, hcount, hfiled, hwrite, -, hagain⟩ := run_sessions hrun halternating
  exact ⟨_, hrun, halternating, hcount, hfiled rfl (by simp [twoSessionsEvents]),
    (hwrite upStatement).1 rfl, hagain ⟨_, rfl⟩ rfl⟩

end PatternFile.Writer

end LogHarvest
