import Nesting.Proofs.LineEnding
import Nesting.Proofs.Score
import Nesting.Proofs.Outcomes
import Nesting.Request

/-!
# Three tiers of one report

The operations that ask for a tier do the same work and differ in how much of it they tell: what the
lower tiers answer is what the highest answers, cut down to their tier (`Operation.run_eq_cut`), and
what one of them refuses they all refuse.

The highest tier tells the lines and, beside them, measures that were computed from the depths in
passes of their own. `Measures.Describes` says how the two belong together, and
`CountedLine.AreListed` what holds of the lines of every listing.
-/

namespace Nesting

/-! ## Cutting a report down -/

/-- A report cut down to a tier. A report that tells less is left as it is. -/
def Report.cut : Tier → Report → Report
  | .brief, r => .brief r.grade
  | .full, .listed g m _ => .full g m
  | .full, r => r
  | .listed, r => r

def Analysis.cut (tier : Tier) (a : Analysis) : Analysis :=
  { a with report := a.report.cut tier }

theorem Report.build_eq_cut (lines : List CountedLine) (tier : Tier) (t : ThresholdChoice) :
    build lines tier t = (build lines .listed t).map (cut tier) := by
  simp only [build]
  cases measure (lines.map (·.depth)) with
  | error e => rfl
  | ok m =>
      cases t.resolve with
      | error e => rfl
      | ok t =>
          simp only [bind, Except.bind]
          cases assess (.float m.score) t with
          | error e => rfl
          | ok a => cases tier <;> rfl

theorem analyzeListing_eq_cut (source : Source) (l : Listing) (comments : Option Pattern)
    (t : ThresholdChoice) (tier : Tier) :
    analyzeListing source l ⟨comments, t, tier⟩ =
      (analyzeListing source l ⟨comments, t, .listed⟩).map (·.cut tier) := by
  simp only [analyzeListing]
  rw [Report.build_eq_cut]
  cases Report.build l.lines .listed t <;> rfl

section Options

variable (text : String) (tier : Tier) (es : Arguments) (characters : CharacterNames)

/-- The options of an analysis of some tier that was asked for with options by name. -/
def optionsIn (comments : Option Pattern) : AnalysisOptions :=
  ⟨comments, thresholdsIn es, tier⟩

theorem runPlain_text :
    runPlain false text (some tier) es characters =
      commentsIn "comment_pattern" es characters >>= fun comments =>
        analyzeText text (optionsIn tier es comments) := rfl

theorem runPlain_diff :
    runPlain true text (some tier) es characters =
      changesIn es >>= fun which => commentsIn "comment_pattern" es characters >>= fun comments =>
        analyzeDiff which text (optionsIn tier es comments) := by
  simp only [runPlain]
  cases changesIn es <;> rfl

theorem runPlain_eq_cut (isDiff : Bool) :
    runPlain isDiff text (some tier) es characters =
      (runPlain isDiff text (some .listed) es characters).map (·.cut tier) := by
  cases isDiff with
  | false =>
      rw [runPlain_text, runPlain_text]
      cases commentsIn "comment_pattern" es characters with
      | error e => rfl
      | ok comments => exact analyzeListing_eq_cut ..
  | true =>
      rw [runPlain_diff, runPlain_diff]
      cases changesIn es with
      | error e => rfl
      | ok which =>
          cases commentsIn "comment_pattern" es characters with
          | error e => rfl
          | ok comments => exact analyzeListing_eq_cut ..

end Options

namespace Operation

/-- An operation that asks for a tier refuses no option but the text itself. -/
theorem checkNames_of_tier {op : Operation} {tier : Tier} (hop : op.tier? = some tier)
    {names : List String} (h : "text" ∉ names) : op.checkNames names = .ok () := by
  have hfind : ∀ p : String → Bool, (∀ n, p n = (n == "text")) → names.find? p = none := by
    intro p hp
    rw [List.find?_eq_none]
    intro n hn heq
    rw [hp, beq_iff_eq] at heq
    exact h (heq ▸ hn)
  cases op with
  | text => cases hop
  | diff => cases hop
  | brief | full | listed =>
      rw [checkNames, hfind _ fun n => by simp [subject, options?]]
      rfl

theorem run_eq_cut {op : Operation} {tier : Tier} (hop : op.tier? = some tier) (text : String)
    {es : Arguments} (h : "text" ∉ es.names) (characters : CharacterNames) :
    op.run text es characters = (listed.run text es characters).map (·.cut tier) := by
  have hlisted : listed.checkNames es.names = .ok () := checkNames_of_tier rfl h
  have hnames := checkNames_of_tier hop h
  cases op with
  | text => cases hop
  | diff => cases hop
  | brief | full | listed =>
      obtain rfl := Option.some.inj hop
      simp only [run, hnames, hlisted, bind, Except.bind]
      cases (if es.isOn "diff" then diff else Operation.text).checkNames
          (es.erase "diff").names with
      | error e => rfl
      | ok => exact runPlain_eq_cut ..

end Operation

/-! ## Lines and their measures -/

/-- A text that has something at both ends that is not blank. -/
structure Line.IsTrimmed (l : Line) : Prop where
  ne_nil : l ≠ []
  head : ∀ c ∈ l.head?, isBlank c = false
  last : ∀ c ∈ l.getLast?, isBlank c = false

namespace Line

theorem isTrimmed_trim {l : Line} (h : l.trim ≠ []) : IsTrimmed l.trim := by
  refine ⟨h, fun c hc => ?_, fun c hc => ?_⟩
  · obtain ⟨rest, hrest⟩ : l.trim <+: l.trimStart := trimEnd_prefix l.trimStart
    refine head?_dropWhile_isBlank (l := l) ?_
    show c ∈ l.trimStart.head?
    rw [← hrest, List.head?_append_of_ne_nil _ h]
    exact hc
  · rw [trim, trimEnd, List.getLast?_reverse] at hc
    exact head?_dropWhile_isBlank hc

end Line

/-- What holds of the lines of every listing. -/
structure CountedLine.AreListed (lines : List CountedLine) : Prop where
  ascending : lines.Pairwise fun c c' => c.number < c'.number
  one_le : ∀ c ∈ lines, 1 ≤ c.number
  trimmed : ∀ c ∈ lines, Line.IsTrimmed c.content.toList
  nonneg : ∀ c ∈ lines, 0 ≤ c.depth

theorem CountedLine.areListed_countLines {unit : Int} (hunit : 0 < unit) (drops : Line → Bool)
    (lines : List Line) : AreListed (countLines unit drops lines) := by
  rw [countLines_eq_countFrom]
  refine ⟨pairwise_countFrom 1 lines, fun c hc => ?_, fun c hc => ?_, fun c hc => ?_⟩
  · exact_mod_cast le_number_of_mem_countFrom hc
  all_goals
    obtain ⟨i, l, -, htrim, -, rfl⟩ := mem_countFrom_iff.mp hc
  · rw [String.toList_ofList]
    exact Line.isTrimmed_trim htrim
  · exact (l.depth_bounds hunit).1

namespace Listing

theorem areListed_ofText (drops : Line → Bool) (text : String) :
    CountedLine.AreListed (ofText drops text).lines :=
  CountedLine.areListed_countLines (Indent.unit_pos _) drops _

theorem areListed_ofDiff (which : Include) (drops : Line → Bool) (diff : String) :
    CountedLine.AreListed (ofDiff which drops diff).lines := by
  rw [ofDiff, ofDiffLines_eq]
  exact CountedLine.areListed_countLines (Indent.unit_pos _) drops _

end Listing

/-- How measures tell of lines: how many there are, how many there are of each depth that occurs,
by ascending depth, and how deep the deepest is. -/
structure Measures.Describes (m : Measures) (lines : List CountedLine) : Prop where
  lineCount : m.lineCount = lines.length
  sum_counts : (m.counts.map Prod.snd).sum = lines.length
  ascending : m.counts.Pairwise fun p q => p.1 < q.1
  mem_counts : ∀ d n, (d, n) ∈ m.counts ↔ 0 < n ∧ n = lines.countP (·.depth == d)
  max : m.max = (m.counts.getLast?.map Prod.fst).getD 0

theorem Measures.describes_ofDepths (lines : List CountedLine) :
    (ofDepths (lines.map (·.depth))).Describes lines where
  lineCount := List.length_map _
  sum_counts := (sum_depthCounts _).trans (List.length_map _)
  ascending := pairwise_depthCounts _
  mem_counts := by
    intro d n
    rw [ofDepths, mem_depthCounts, List.count, List.countP_map]
    rfl
  max := maxDepth_eq _

/-- A report of the highest tier, made from some lines. -/
theorem Report.exists_of_build_listed {lines : List CountedLine} {t : ThresholdChoice}
    {r : Report} (h : build lines .listed t = .ok r) :
    ∃ g m, r = .listed g m lines ∧ m.Describes lines := by
  rw [build, measure] at h
  split at h
  · simp only [pure_bind, bind_eq_ok_iff] at h
    obtain ⟨t', -, a, -, h⟩ := h
    exact ⟨_, _, (Except.ok.inj h).symm, Measures.describes_ofDepths lines⟩
  · cases h

theorem exists_of_analyzeListing {source : Source} {l : Listing} {comments : Option Pattern}
    {t : ThresholdChoice} {a : Analysis} (hl : CountedLine.AreListed l.lines)
    (h : analyzeListing source l ⟨comments, t, .listed⟩ = .ok a) :
    ∃ g m lines, a.report = .listed g m lines ∧ m.Describes lines
      ∧ CountedLine.AreListed lines := by
  rw [analyzeListing, bind_eq_ok_iff] at h
  obtain ⟨r, hr, h⟩ := h
  obtain ⟨g, m, rfl, hm⟩ := Report.exists_of_build_listed hr
  rw [← Except.ok.inj h]
  exact ⟨g, m, l.lines, rfl, hm, hl⟩

theorem exists_of_runPlain {isDiff : Bool} {text : String} {es : Arguments}
    {characters : CharacterNames} {a : Analysis}
    (h : runPlain isDiff text (some .listed) es characters = .ok a) :
    ∃ g m lines, a.report = .listed g m lines ∧ m.Describes lines
      ∧ CountedLine.AreListed lines := by
  cases isDiff with
  | false =>
      rw [runPlain_text, bind_eq_ok_iff] at h
      obtain ⟨comments, -, h⟩ := h
      exact exists_of_analyzeListing (Listing.areListed_ofText _ text) h
  | true =>
      simp only [runPlain_diff, bind_eq_ok_iff] at h
      obtain ⟨which, -, comments, -, h⟩ := h
      exact exists_of_analyzeListing (Listing.areListed_ofDiff which _ text) h

/-- The three operations that ask for a tier, called with one text and with any options but the text
itself, of which those that ask for other tiers have no effect: each answers what the highest one
answers, cut down to its tier, or all refuse with one error. The highest one tells lines that ascend
from one, are trimmed and are no less than flat, and measures that describe just these lines. -/
theorem run_tiers (text : String) {es : Arguments} (h : "text" ∉ es.names)
    (characters : CharacterNames) :
    (∀ op tier, Operation.tier? op = some tier →
        op.run text es characters =
          (Operation.listed.run text es characters).map (·.cut tier))
      ∧ ∀ a, Operation.listed.run text es characters = .ok a →
          ∃ g m lines, a.report = .listed g m lines ∧ m.Describes lines
            ∧ CountedLine.AreListed lines := by
  refine ⟨fun op tier hop => Operation.run_eq_cut hop text h characters, fun a ha => ?_⟩
  simp only [Operation.run, bind_eq_ok_iff] at ha
  obtain ⟨-, -, -, -, ha⟩ := ha
  exact exists_of_runPlain ha

/-- A diff analysed with a pattern that has been read, a pair of thresholds, and an option that asks
for another tier than the operation does. -/
theorem run_tiers_diff :
    let es : Arguments := [("diff", .value (.bool true)), ("verbose", .value (.bool true)),
      ("include", .value (.text "both")), ("comment_pattern", .pattern Comment.defaultPattern),
      ("thresholds", .thresholds ⟨.int 1, .int 2⟩)]
    "text" ∉ es.names
      ∧ Operation.brief.run "+a\n-  b" es =
          (Operation.listed.run "+a\n-  b" es).map (·.cut .brief) := by
  intro es
  have hnames : "text" ∉ es.names := by decide
  exact ⟨hnames, (run_tiers "+a\n-  b" hnames .plain).1 .brief .brief rfl⟩

end Nesting
