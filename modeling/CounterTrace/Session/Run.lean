import CounterTrace.Session.Step

/-!
# Running a session

A session goes on step by step.  A step that fails answers so and leaves the session as it
was, and the next one is taken all the same.
-/

namespace CounterTrace.Session

/-- What comes of a step. -/
structure Reply where
  answer : Answer
  session : Session
  /-- What was told on the way. -/
  warnings : List Warning

/-- The answer that shows how a run came out. -/
def outcomeAnswer (title : String) : Except Generator.Failure Generator.Report → Answer
  | .ok report => .report report title
  | .error failure => .failed failure

/-- The answer of a session that goes on without a script. -/
def skipAnswer : Except Generator.Failure Generator.Report → Answer
  | .ok _ => .generated true
  | .error (.badShifts fault) => .failed (.badShifts fault)
  | .error _ => .generated false

/-- The answer to a step, the state after it, and what it told. -/
def step (s : Session) : Step → Reply
  | .putFile file content =>
    ⟨.done, { s with files := s.files.putFile (s.path file) content }, []⟩
  | .makeDirectory directory =>
    ⟨.done, { s with files := s.files.makeDirectory (s.path directory) }, []⟩
  | .removeFile file =>
    ⟨.done, { s with files := s.files.removeFile (s.path file) }, []⟩
  | .showFile file => ⟨.text (s.files.readText (s.path file)).toOption, s, []⟩
  | .listFiles => ⟨.paths s.listing, s, []⟩
  | .loadManifest file =>
    ⟨.manifest (Manifest.load s.files (s.path file)), s,
      (Manifest.fileWarnings s.files (s.path file)).map .manifest⟩
  | .readManifest file =>
    match Manifest.ofFile s.files (s.path file) with
    | .error fault => ⟨.unreadable fault, s, []⟩
    | .ok m => ⟨.manifest m, s, (Manifest.fileWarnings s.files (s.path file)).map .manifest⟩
  | .addCounter device counter =>
    let counters := s.counters.push device counter
    ⟨.count (counters.onDevice device).count, { s with counters }, []⟩
  | .countCounters device => ⟨.count (s.counters.onDevice device).count, s, []⟩
  | .showCounter device index => ⟨.counter ((s.counters.onDevice device).counter? index), s, []⟩
  | .nameMetricSet metric =>
    let metricSets := s.metricSets.insert metric
    ⟨.stored (s.metricSets.stores metric) metricSets.size, { s with metricSets },
      (s.metricSets.conflict? metric).toList.map .metricConflict⟩
  | .showMetricSet tile => ⟨.metricSet (s.metricSets.lookup tile), s, []⟩
  | .countMetricSets => ⟨.metricSets s.metricSets.size s.metricSets.isEmpty, s, []⟩
  | .putCollection key metrics =>
    let collections := s.collections.insert key metrics
    ⟨.collections collections.size collections.isEmpty, { s with collections }, []⟩
  | .showCollection key => ⟨.collection (s.collections.get? key), s, []⟩
  | .useCollections =>
    let metricSets := s.collections.metricSets
    ⟨.used metricSets s.collections, { s with metricSets },
      s.collections.conflicts.map .metricConflict⟩
  | .setShifts column row => ⟨.done, { s with columnShift := column, rowShift := row }, []⟩
  | .configure change =>
    let config := change.apply s.config
    ⟨.configured config.manifestPath config.outputPath, { s with config }, []⟩
  | .generate device =>
    let run := s.generate device
    ⟨outcomeAnswer s.config.script.title run.outcome, { s with files := run.files }, run.warnings⟩
  | .generateOrSkip device =>
    let run := s.generateOrSkip device
    ⟨skipAnswer run.outcome, { s with files := run.files }, run.warnings⟩

/-- The answers to some steps, the state after them, and what they told. -/
def run (s : Session) : List Step → List Answer × Session × List Warning
  | [] => ([], s, [])
  | x :: xs =>
    let first := s.step x
    let rest := first.session.run xs
    (first.answer :: rest.1, rest.2.1, first.warnings ++ rest.2.2)

end CounterTrace.Session
