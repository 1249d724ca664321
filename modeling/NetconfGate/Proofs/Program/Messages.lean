import NetconfGate.Program.Basic

/-!
# What the lines of a log tell

Two things can be read off a log: that the program listens, and that its server is
closed. Each is told in words of its own, and by nothing else.
-/

namespace NetconfGate

namespace Server

/-- What is told by a close, and by every close. -/
def Note.ofClose : Note → Bool
  | .closing _ => true
  | .nothingToRelease => true
  | _ => false

variable {α : Type}

theorem ofClose_channel (notes : List Channel.Note) :
    ∀ note ∈ notes.map Note.channel, note.ofClose = false := by
  intro note told
  obtain ⟨_, _, rfl⟩ := List.mem_map.mp told
  rfl

theorem ofClose_key (notes : List HostKey.Note) :
    ∀ note ∈ notes.map Note.key, note.ofClose = false := by
  intro note told
  obtain ⟨_, _, rfl⟩ := List.mem_map.mp told
  rfl

theorem ofClose_listen (s : Server) (config : Configuration α HostKey.Source)
    (around : Surroundings) (setup : Secure.Setup) (service : Channel.Service) (tree : FileTree) :
    ∀ note ∈ (s.listen config around setup service tree).notes, note.ofClose = false := by
  intro note told
  unfold listen at told
  dsimp only at told
  split at told
  · rcases List.mem_append.mp told with opened | released
    · exact ofClose_channel _ note opened
    · exact ofClose_channel _ note released
  · rcases List.mem_append.mp told with opened | bound
    · exact ofClose_channel _ note opened
    · rw [List.mem_singleton.mp bound]
      rfl

theorem ofClose_setUp (s : Server) (config : Configuration α HostKey.Source)
    (around : Surroundings) (timeouts : Timeouts) (keys : List HostKey) (tree : FileTree) :
    ∀ note ∈ (s.setUp config around timeouts keys tree).notes, note.ofClose = false := by
  intro note told
  unfold setUp at told
  split at told
  · cases told
  · dsimp only at told
    split at told
    · rcases List.mem_cons.mp told with rfl | released
      · rfl
      · exact ofClose_channel _ note released
    · rcases List.mem_cons.mp told with rfl | later
      · rfl
      rcases List.mem_cons.mp later with rfl | listened
      · rfl
      · exact ofClose_listen s config around _ _ tree note listened

/-- A bind does not tell of a close. -/
theorem ofClose_bind (s : Server) (config : Configuration α HostKey.Source)
    (around : Surroundings) : ∀ note ∈ (s.bind config around).notes, note.ofClose = false := by
  intro note told
  unfold bind at told
  split at told
  · cases told
  · cases told
  split at told
  · cases told
  dsimp only at told
  split at told
  · exact ofClose_key _ note told
  · rcases List.mem_append.mp told with loaded | later
    · exact ofClose_key _ note loaded
    · exact ofClose_setUp s config around _ _ _ note later

end Server

namespace Program.Line

def startsWith (mark : String) (line : Line) : Bool := mark.toList.isPrefixOf line.text.toList

/-- The line that says that the program listens. -/
def saysListening (line : Line) : Bool := line.startsWith "ncproxy listening on "

/-- The line of a close, of a server that listens or of another. -/
def tellsClose (line : Line) : Bool :=
  line.startsWith "Closing proxy server" || line.startsWith "Proxy server not bound"

theorem saysListening_ofNote (note : Server.Note) : (ofNote note).saysListening = false := by
  cases note with
  | key note =>
      cases note <;>
        simp only [saysListening, startsWith, ofNote, ofKeyNote, debug, info,
          String.toList_append] <;>
        rfl
  | channel note =>
      cases note <;>
        simp only [saysListening, startsWith, ofNote, ofChannelNote, debug, info, warn,
          String.toList_append] <;>
        rfl
  | _ =>
      simp only [saysListening, startsWith, ofNote, debug, info, String.toList_append]
      rfl

theorem tellsClose_ofNote (note : Server.Note) : (ofNote note).tellsClose = note.ofClose := by
  cases note with
  | key note =>
      cases note <;>
        simp only [tellsClose, startsWith, ofNote, ofKeyNote, debug, info, String.toList_append] <;>
        rfl
  | channel note =>
      cases note <;>
        simp only [tellsClose, startsWith, ofNote, ofChannelNote, debug, info, warn,
          String.toList_append] <;>
        rfl
  | _ =>
      simp only [tellsClose, startsWith, ofNote, debug, info, String.toList_append]
      rfl

/-- Neither of both. -/
structure Quiet (line : Line) : Prop where
  listening : line.saysListening = false
  close : line.tellsClose = false

theorem quiet_ofNotes {notes : List Server.Note} (others : ∀ note ∈ notes, note.ofClose = false) :
    ∀ line ∈ notes.map ofNote, Quiet line := by
  intro line told
  obtain ⟨note, member, rfl⟩ := List.mem_map.mp told
  exact ⟨saysListening_ofNote note, (tellsClose_ofNote note).trans (others note member)⟩

theorem quiet_starting : Quiet starting := ⟨by decide, by decide⟩

theorem quiet_stopped : Quiet (info "ncproxy stopped") := ⟨by decide, by decide⟩

theorem quiet_announce (s : Settings) (users : Password.Table) (t : Timeouts) :
    ∀ line ∈ announce s users t, Quiet line := by
  intro line told
  rcases List.mem_append.mp told with warned | announced
  · split at warned
    · rw [List.mem_singleton.mp warned]
      exact ⟨by decide, by decide⟩
    · cases warned
  · simp only [List.mem_cons, List.not_mem_nil, or_false] at announced
    constructor
    · rcases announced with rfl | rfl | rfl <;>
        simp only [saysListening, startsWith, info, String.toList_append] <;> rfl
    · rcases announced with rfl | rfl | rfl <;>
        simp only [tellsClose, startsWith, info, String.toList_append] <;> rfl

theorem quiet_signalLine (signal : Signal) : Quiet (signalLine signal) := by
  cases signal with
  | terminate => exact ⟨by decide, by decide⟩
  | interrupt => exact ⟨by decide, by decide⟩

/-- The one line of a log that says that the program listens. -/
theorem saysListening_listening (address : Address) :
    (info ("ncproxy listening on " ++ address.text)).saysListening = true ∧
      (info ("ncproxy listening on " ++ address.text)).tellsClose = false := by
  constructor
  · simp only [saysListening, startsWith, info, String.toList_append]
    rfl
  · simp only [tellsClose, startsWith, info, String.toList_append]
    rfl

end Program.Line

end NetconfGate
