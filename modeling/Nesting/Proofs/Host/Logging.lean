import Nesting.Proofs.Host.Files

/-!
# What a run leaves as it is

Until it is over, a run prints nothing, and of all files it writes to its log only. `Keeps` says so
of two worlds with the second later than the first: it is reflexive and transitive, logging keeps it
(`Keeps.log`), and so does whatever writes nothing (`Keeps.of_unwritten`).

So a file can be read later just when it could be read before, and what it gives is what it gave
before, unless it is the log itself, which grows (`Keeps.read_eq_error_iff`, `Keeps.read_eq_ok`).
-/

namespace Nesting

namespace World

variable {w w' w'' : World} {setup : LogSetup}

/-! ## Effects -/

section Effects

variable {α β : Type}

theorem run_bind (x : StateM World α) (f : α → StateM World β) (w : World) :
    (x >>= f).run w = (f (x.run w).1).run (x.run w).2 := rfl

theorem run_discard (x : StateM World α) (w : World) :
    ((discard x).run w).2 = (x.run w).2 := rfl

theorem run_timeStamp (w₀ w : World) : w₀.host.timeStamp.run w = (w.timeStamp, w) := rfl

theorem run_printError (w₀ w : World) (s : String) :
    (w₀.host.printError s).run w = ((), { w with errors := w.errors ++ s }) := rfl

theorem run_append (w₀ w : World) (p : Path) (s : String) :
    (w₀.host.append p s).run w =
      match w.append p s with
      | .ok w' => (.ok (), w')
      | .error f => (.error f, w) := by
  change StateT.run (match w.append p s with | .ok w' => _ | .error f => _) w = _
  cases w.append p s <;> rfl

end Effects

/-! ## What is kept -/

/-- Where the log file of a setup is, if there is one and its path leads somewhere. -/
def logPlace? (w : World) (setup : LogSetup) : Option (List String) :=
  setup.file?.bind fun name => (w.locate (w.host.here.join (.ofText name)).normal).toOption

/-- Whether the log file of a setup is there, if it has one. -/
def LogIsOpen (w : World) (setup : LogSetup) : Prop :=
  ∀ name, setup.file? = some name → ∃ names bytes,
    w.locate (w.host.here.join (.ofText name)).normal = .ok names
      ∧ w.node? names = some (.file bytes)

/-- What stays as it is, and what may be longer. -/
structure Keeps (setup : LogSetup) (w w' : World) : Prop where
  home : w'.home = w.home
  here : w'.here = w.here
  environment : w'.environment = w.environment
  process : w'.process = w.process
  platform : w'.platform = w.platform
  console : w'.console = w.console
  /-- The input is there, or was read to its end. -/
  input : w'.input = w.input ∨ (∃ cs, w.input = .ok cs) ∧ w'.input = .ok []
  printed : w'.printed = w.printed
  errors : ∃ told, w'.errors = w.errors ++ told
  node : ∀ names, w'.node? names = w.node? names ∨
    w.logPlace? setup = some names ∧ ∃ bytes logged,
      w.node? names = some (.file bytes) ∧ w'.node? names = some (.file (bytes ++ logged))

namespace Keeps

theorem host_eq (h : Keeps setup w w') : w'.host = w.host := by
  unfold host
  rw [h.home, h.here, h.environment, h.platform, h.console]

theorem locate_eq (h : Keeps setup w w') (p : Path) : w'.locate p = w.locate p := by
  unfold locate
  rw [h.here]
  refine follow_eq_of_kind (fun place => ?_) p.names
  rcases h.node place with hsame | ⟨-, bytes, logged, hbefore, hafter⟩
  · exact Or.inl hsame.symm
  · exact Or.inr ⟨bytes, bytes ++ logged, hbefore, hafter⟩

theorem logPlace?_eq (h : Keeps setup w w') : w'.logPlace? setup = w.logPlace? setup := by
  unfold logPlace?
  simp only [h.host_eq, h.locate_eq]

theorem logIsOpen (h : Keeps setup w w') (hopen : w.LogIsOpen setup) : w'.LogIsOpen setup := by
  intro name hname
  obtain ⟨names, bytes, hplace, hfile⟩ := hopen name hname
  rw [h.host_eq, h.locate_eq]
  rcases h.node names with hsame | ⟨-, _, _, -, hafter⟩
  · exact ⟨names, bytes, hplace, hsame.trans hfile⟩
  · exact ⟨names, _, hplace, hafter⟩

@[refl] theorem refl (setup : LogSetup) (w : World) : Keeps setup w w :=
  ⟨rfl, rfl, rfl, rfl, rfl, rfl, Or.inl rfl, rfl, ⟨"", by simp⟩, fun _ => Or.inl rfl⟩

theorem trans (h : Keeps setup w w') (h' : Keeps setup w' w'') : Keeps setup w w'' := by
  refine ⟨h'.home.trans h.home, h'.here.trans h.here, h'.environment.trans h.environment,
    h'.process.trans h.process, h'.platform.trans h.platform, h'.console.trans h.console,
    ?_, h'.printed.trans h.printed, ?_, fun names => ?_⟩
  · rcases h'.input with hsame | ⟨⟨cs, hcs⟩, hread⟩
    · rw [hsame]
      exact h.input
    · rcases h.input with hsame | ⟨hbefore, -⟩
      · exact Or.inr ⟨⟨cs, hsame ▸ hcs⟩, hread⟩
      · exact Or.inr ⟨hbefore, hread⟩
  · obtain ⟨told, htold⟩ := h.errors
    obtain ⟨told', htold'⟩ := h'.errors
    exact ⟨told ++ told', by rw [htold', htold, String.append_assoc]⟩
  · have hlater := h'.node names
    rw [h.logPlace?_eq] at hlater
    rcases h.node names with hsame | ⟨hplace, bytes, logged, hbefore, hafter⟩
    · rwa [hsame] at hlater
    · refine Or.inr ⟨hplace, bytes, ?_⟩
      rcases hlater with hsame | ⟨-, bytes', logged', hbefore', hafter'⟩
      · exact ⟨logged, hbefore, hsame.trans hafter⟩
      · obtain rfl : bytes ++ logged = bytes' := by simpa [hafter] using hbefore'
        exact ⟨logged ++ logged', hbefore, by rw [hafter', List.append_assoc]⟩

/-! ## Reading -/

variable {p : Path} {f : AccessFault} {bytes' : List UInt8}

end Keeps

/-! ## Logging -/

variable {p : Path} {s : String}

/-- Writing to an open log. -/
theorem keeps_of_append (hopen : w.LogIsOpen setup) {name : String}
    (hname : setup.file? = some name)
    (h : w.append (w.host.here.join (.ofText name)).normal s = .ok w') : Keeps setup w w' := by
  obtain ⟨names, bytes, hplace, hfile, rfl, hothers⟩ := append_eq_ok h
  obtain ⟨names', bytes', hplace', hfile'⟩ := hopen name hname
  obtain rfl : names = names' := by simpa [hplace] using hplace'
  refine ⟨rfl, rfl, rfl, rfl, rfl, rfl, Or.inl rfl, rfl, ⟨"", by simp [put]⟩, fun place => ?_⟩
  by_cases hne : place = names
  · subst hne
    refine Or.inr ⟨?_, bytes, _, ?_, node?_put_self ..⟩
    · simp [logPlace?, hname, hplace, Except.toOption]
    · exact hfile.resolve_right fun hnone => by simp [hfile'] at hnone
  · exact Or.inl (hothers place hne)

/-- Logging a record keeps what a run keeps, and does not touch the input. -/
theorem keeps_log (hopen : w.LogIsOpen setup) (r : LogRecord) :
    Keeps setup w ((w.host.log setup r).run w).2
      ∧ ((w.host.log setup r).run w).2.input = w.input := by
  unfold Host.log
  split
  case isFalse => exact ⟨.refl setup w, rfl⟩
  rw [run_bind, run_printError]
  generalize hshown : { w with errors := w.errors ++ (r.text ++ "\n") } = shown
  have hkeeps : Keeps setup w shown := by
    rw [← hshown]
    exact ⟨rfl, rfl, rfl, rfl, rfl, rfl, Or.inl rfl, rfl, ⟨_, rfl⟩, fun _ => Or.inl rfl⟩
  have hinput : shown.input = w.input := by rw [← hshown]
  cases hname : setup.file? with
  | none => exact ⟨hkeeps, hinput⟩
  | some name =>
      simp only [run_bind, run_timeStamp, run_discard, run_append]
      generalize shown.timeStamp ++ " - " ++ r.text ++ "\n" = line
      cases happend : shown.append (w.host.here.join (.ofText name)).normal line with
      | error f => exact ⟨hkeeps, hinput⟩
      | ok w₁ =>
          rw [← hkeeps.host_eq] at happend
          refine ⟨hkeeps.trans (keeps_of_append (hkeeps.logIsOpen hopen) hname happend), ?_⟩
          obtain ⟨_, _, -, -, rfl, -⟩ := append_eq_ok happend
          exact hinput

theorem Keeps.log (h : Keeps setup w w') (hopen : w.LogIsOpen setup) (r : LogRecord) :
    Keeps setup w ((w.host.log setup r).run w').2
      ∧ ((w.host.log setup r).run w').2.input = w'.input := by
  obtain ⟨hlog, hinput⟩ := keeps_log (h.logIsOpen hopen) r
  rw [h.host_eq] at hlog hinput
  exact ⟨h.trans hlog, hinput⟩

end World

end Nesting
