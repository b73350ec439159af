import FixedDecimal.Proofs.Calculator.Fraction
import FixedDecimal.Proofs.CommandLine.Options
import FixedDecimal.Proofs.CommandLine.Settings

/-! Evaluation from the command line computes what the library computes, under the settings that
the options, the environment and the environment file choose in this order. -/
namespace FixedDecimal.CommandLine

def variableValue? (env : Environment) (file name : String) : Option String :=
  (env.lookup name).or ((EnvFile.written env file).lookup name)

/-- The settings that options and variables choose. An option comes before a variable, a variable
that cannot be read counts as missing, and both may ask for JSON. -/
def Chosen.config (c : Chosen) (env : Environment) (file : String) : Config where
  precision := (c.precision.or ((variableValue? env file Config.precisionVariable).bind fun s =>
    Text.word? s.toList)).getD 6
  rounding := (c.rounding.or ((variableValue? env file Config.roundingVariable).bind fun s =>
    (Rounding.read s).toOption)).getD .towardZero
  jsonOutput := c.json || variableValue? env file Config.jsonVariable == some "true" ||
    variableValue? env file Config.jsonVariable == some "1"

def Outcome.telling (result : Except Error Decimal) (json : Bool) : Outcome :=
  match result with
  | .ok x => ⟨0, (if json then Json.writeEvaluation x else x.text) ++ "\n", none⟩
  | .error e => ⟨1, "", some e.report⟩

/-- An evaluation adds two precisions once both formulas have a value, and their sum is in the range
of a precision. -/
def DivisionFits (words : List String) (precision : Precision) : Prop :=
  ∀ c n d, Expression.read words = .ok c → c.numerator.evaluate = .ok n → c.divisor = .ok d →
    d.precision.toNat + precision.toNat < 2 ^ 32

theorem divisionFits_of_read {words : List String} {c : Calculator} {d : Decimal}
    {precision : Precision} (hread : Expression.read words = .ok c) (hd : c.divisor = .ok d)
    (hsum : d.precision.toNat + precision.toNat < 2 ^ 32) : DivisionFits words precision := by
  intro c' n d' hread' _ hd'
  obtain rfl := Except.ok.inj (hread.symm.trans hread')
  obtain rfl := Except.ok.inj (hd.symm.trans hd')
  exact hsum

theorem config_request {env loaded : Environment} {file : String}
    (h : EnvFile.Extends env (EnvFile.written env file) loaded) (c : Chosen) (words : List String) :
    (c.request words).config loaded = c.config env file := by
  have hvariable (name : String) : loaded.lookup name = variableValue? env file name := h name
  simp only [Request.config, Config.withOverrides, Config.ofEnvironment, Config.standard,
    Chosen.request, Chosen.config, hvariable, Option.getD_or, Config.mk.injEq, true_and]
  rw [Bool.or_comm, Bool.or_assoc]

theorem answer_request {env loaded : Environment} {file : String}
    (h : EnvFile.Extends env (EnvFile.written env file) loaded) (c : Chosen) (words : List String) :
    answer (c.request words) loaded =
      .telling (evaluateWords words (c.config env file)) (c.config env file).jsonOutput := by
  have hresult (config : Config) :
      (c.request words).result config = evaluateWords words config := rfl
  rw [answer, config_request h, hresult]
  cases evaluateWords words (c.config env file) <;> rfl

theorem run_of_loaded {env loaded : Environment} {file : String}
    (hload : EnvFile.load? env file = some loaded) {args : List String} {r : Request}
    (hrequest : request false args = .ok r) : run args env file = answer r loaded := by
  rw [run, hload, hrequest]

/-- Options before a mark, and without one on both sides of plain words, give the value of the
same words under the same settings; nothing is promised where the division leaves the range of
precisions. Where a variable of the file cannot be set, no command line is answered. -/
theorem run_eval (env : Environment) (file : String) (c : Chosen) {words : List String}
    (hne : words ≠ []) :
    (EnvFile.Settable env (EnvFile.written env file) →
      let config := c.config env file
      let told := Outcome.telling (evaluateWords words config) config.jsonOutput
      DivisionFits words config.precision →
      (∀ args, Options .nothing args c → run ("eval" :: args ++ "--" :: words) env file = told) ∧
      ((∀ word ∈ words, PlainWord word) →
        ∀ b before after, Options .nothing before b → Options b after c →
          run ("eval" :: before ++ words ++ after) env file = told)) ∧
    (¬EnvFile.Settable env (EnvFile.written env file) →
      ∀ args, run args env file = ⟨101, "", none⟩) := by
  obtain ⟨hsettable, hspoilt⟩ := EnvFile.readLines_entries env (EnvFile.lines file.toList)
  constructor
  · intro hset config told _
    obtain ⟨loaded, hload, hextends⟩ := hsettable hset
    constructor
    · intro args hargs
      exact (run_of_loaded hload (request_marked hargs hne)).trans (answer_request hextends c words)
    · intro hplain b before after hbefore hafter
      exact (run_of_loaded hload (request_plain hbefore hafter hne hplain)).trans
        (answer_request hextends c words)
  · intro hset args
    have hload : EnvFile.load? env file = none := hspoilt hset
    rw [run, hload]
    rfl

/-- The environment hides the rounding of the file by a name that says nothing, and an option its
precision. -/
theorem run_minus_ten_over_three :
    let env := [("DECIMAL_CALC_ROUNDING", "nonsense")]
    let file := "DECIMAL_CALC_ROUNDING=floor\nDECIMAL_CALC_PRECISION=2"
    let told : Outcome :=
      ⟨0, "\x7b\"magnitude\":\"-3333\",\"precision\":3,\"decimal\":\"-3.333\"\x7d\n", none⟩
    run ["eval", "-jp3", "--", "-10", "/", "3"] env file = told ∧
      run ["eval", "--json", "-10", "/", "3", "-p", "3"] env file = told := by
  intro env file told
  let json : Chosen := ⟨none, none, true⟩
  let c : Chosen := ⟨some 3, none, true⟩
  have hgives : json.Gives .precision ['3'] c := .precision rfl (by decide)
  have hjoined : Options .nothing [String.ofList ['-', 'j', 'p', '3']] c :=
    .letters (.json rfl (.joined hgives)) .none
  have hbefore : Options .nothing ["--json"] json := .json rfl .none
  have hafter : Options json [String.ofList ['-', 'p'], String.ofList ['3']] c :=
    .lettersValue (.left .precision) hgives .none
  have hset : EnvFile.Settable env (EnvFile.written env file) := by
    have hwritten : EnvFile.written env file =
        [("DECIMAL_CALC_ROUNDING", "floor"), ("DECIMAL_CALC_PRECISION", "2")] := by decide
    rw [hwritten, EnvFile.settable_cons, EnvFile.settable_cons]
    exact ⟨fun _ => by decide, fun _ => by decide, EnvFile.settable_nil _⟩
  have hplain : ∀ word ∈ ["-10", "/", "3"], PlainWord word := by
    have hten : PlainNumber ['1', '0'] := .whole (by decide) (by decide)
    simp [PlainWord, hten]
  have hwords : ["-10", "/", "3"] ≠ [] := by decide
  have hfits : DivisionFits ["-10", "/", "3"] (c.config env file).precision :=
    divisionFits_of_read (c := ⟨.seeded ⟨-10, 0⟩, some (.seeded ⟨3, 0⟩)⟩) (d := ⟨3, 0⟩) rfl rfl
      (by decide)
  obtain ⟨hmarked, hunmarked⟩ := (run_eval env file c hwords).1 hset hfits
  have htold : .telling (evaluateWords ["-10", "/", "3"] (c.config env file))
      (c.config env file).jsonOutput = told := by decide +kernel
  rw [htold] at hmarked hunmarked
  exact ⟨hmarked _ hjoined, hunmarked hplain _ _ _ hbefore hafter⟩

/-- A value that no variable can have is not a missing one. -/
theorem run_beside_unsettable_file :
    let file := "DECIMAL_CALC_PRECISION=\x00"
    let config := Chosen.nothing.config [] file
    Options .nothing [] .nothing ∧ DivisionFits ["1"] config.precision ∧
      (∃ x, evaluateWords ["1"] config = .ok x ∧ x.text = "1") ∧
      run ["eval", "--", "1"] [] file ≠
        .telling (evaluateWords ["1"] config) config.jsonOutput := by
  intro file config
  have hfits : DivisionFits ["1"] config.precision :=
    divisionFits_of_read (c := .first ⟨1, 0⟩) (d := ⟨1, 0⟩) rfl rfl (by decide)
  exact ⟨.none, hfits, ⟨_, rfl, by decide⟩, by decide⟩

end FixedDecimal.CommandLine
