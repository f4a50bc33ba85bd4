import AppDescription.Proofs.Children
import AppDescription.Proofs.DeclarationPlaces
import AppDescription.Proofs.Opacity
import AppDescription.Proofs.TopScan

namespace AppDescription

/-- A line by itself, wherever it stands. -/
def Line.ofRaw (raw : Text) : Line :=
  ⟨0, raw⟩

/-- A document does not depend on the numbers of its lines. -/
theorem Document.parse_eq_ok_raws {source : Text} {document : Document} :
    parse source = .ok document ↔
      (Outline.read ((Text.splitOn '\n' source).map Line.ofRaw)).fault? = none ∧
        ofDeclarations (Outline.read ((Text.splitOn '\n' source).map Line.ofRaw)).declarations =
          document := by
  have paired : List.Forall₂ (fun line line' => line.raw = line'.raw) (Line.ofSource source)
      ((Text.splitOn '\n' source).map Line.ofRaw) := by
    rw [← Line.ofSource_map_raw, List.map_map, List.forall₂_map_right_iff, List.forall₂_same]
    exact fun _ _ => rfl
  have alike := (renumbered_corresponds id).outline_alike paired
  have faultless : (Outline.ofSource source).fault? = none ↔
      (Outline.read ((Text.splitOn '\n' source).map Line.ofRaw)).fault? = none := by
    have related := alike.fault
    unfold Outline.ofSource
    generalize (Outline.read (Line.ofSource source)).fault? = fault at related ⊢
    generalize (Outline.read ((Text.splitOn '\n' source).map Line.ofRaw)).fault? = fault' at related ⊢
    cases related <;> simp
  rw [parse_eq_ok, faultless, Outline.ofSource, alike.document]

/-- A line among the children of a declaration of a kind, by what stands above the line. -/
def Line.IsChildOf (kind : DeclarationKind) (above : List Line) (line : Line) : Prop :=
  ∃ front header between, above = front ++ header :: between ∧
    header.declarationKind? = some kind ∧ header.IsChild between line

/-- A line that keeps to itself what is nested below it: a section of the integrations, a line of a
deploy block that neither names the platform nor opens the environments, and an environment. -/
inductive OwnsNested : List Line → Line → Prop
  | integration {above line} : line.IsChildOf .integrations above → OwnsNested above line
  | setting {above line} : line.IsChildOf .deploy above → line.platform? = none →
      ¬line.opensEnvironments → OwnsNested above line
  | environment {above between group line} : group.IsChildOf .deploy above →
      group.opensEnvironments → group.IsChild between line →
      OwnsNested (above ++ group :: between) line

theorem readUnnamed_congr {ofBody : List Line → α} {header : Line} {below below' : List Line}
    (body : ofBody (block header.inner below) = ofBody (block header.inner below'))
    (after : afterBlock header.inner below = afterBlock header.inner below') :
    readUnnamed ofBody header below = readUnnamed ofBody header below' := by
  simp only [readUnnamed, body, after]

/-- A child of a child lies below the header too. -/
theorem Line.IsChild.trans {header group line : Line} {between inside : List Line}
    (first : header.IsChild between group) (second : group.IsChild inside line) :
    header.IsChild inside line :=
  ⟨second.significant, first.deeper.trans second.deeper, second.level⟩

section

variable {header line : Line} {between tail tail' : List Line} (child : header.IsChild between line)
  (same : afterBlock line.inner tail = afterBlock line.inner tail')

include child same

/-- The lines of a section and those after it, with others nested below a child. -/
theorem Line.IsChild.cut_same :
    afterBlock line.inner (block header.inner tail) = afterBlock line.inner (block header.inner tail') ∧
      afterBlock header.inner (between ++ line :: tail) =
        afterBlock header.inner (between ++ line :: tail') := by
  have ordered : header.inner ≤ line.inner := Nat.succ_le_succ child.deeper.le
  obtain ⟨inBlock, after⟩ := same_of_shallower ordered same
  rw [child.afterBlock_eq, child.afterBlock_eq]
  exact ⟨inBlock, after⟩

theorem readIntegrations_same :
    readIntegrations header (between ++ line :: tail) =
      readIntegrations header (between ++ line :: tail') := by
  obtain ⟨inBlock, after⟩ := child.cut_same same
  refine readUnnamed_congr ?_ after
  rw [child.block_eq, child.block_eq, child.namesOf_eq, child.namesOf_eq, inBlock]

theorem readDeploy_same_setting (unnamed : line.platform? = none) (plain : ¬line.opensEnvironments) :
    readDeploy header (between ++ line :: tail) = readDeploy header (between ++ line :: tail') := by
  obtain ⟨inBlock, after⟩ := child.cut_same same
  refine readUnnamed_congr (congrArg _ ?_) after
  rw [child.block_eq, child.block_eq, child.settings_eq, child.settings_eq, inBlock,
    DeployEntry.nested_plain unnamed plain, DeployEntry.nested_plain unnamed plain]

end

theorem readDeploy_same_environment {header group line : Line} {between inside tail tail' : List Line}
    (child : header.IsChild between group) (opens : group.opensEnvironments)
    (inner : group.IsChild inside line)
    (same : afterBlock line.inner tail = afterBlock line.inner tail') :
    readDeploy header (between ++ group :: (inside ++ line :: tail)) =
      readDeploy header (between ++ group :: (inside ++ line :: tail')) := by
  obtain ⟨inBlock, after⟩ := (child.trans inner).cut_same same
  obtain ⟨names, onward⟩ := inner.cut_same inBlock
  refine readUnnamed_congr (congrArg _ ?_) (by rw [child.afterBlock_eq, child.afterBlock_eq, after])
  rw [child.block_eq, child.block_eq, (child.trans inner).block_eq, (child.trans inner).block_eq,
    child.settings_eq, child.settings_eq, onward, inner.block_eq, inner.block_eq,
    DeployEntry.nested_environments opens, DeployEntry.nested_environments opens,
    inner.namesOf_eq, inner.namesOf_eq, names]

/-- A declaration lies outside every block above it. -/
theorem Outlies.of_declares {header : Line} {kind : DeclarationKind}
    (declares : header.declarationKind? = some kind) (below : List Line) :
    Outlies 1 (header :: below) := by
  intro other head
  cases head
  exact ⟨Line.significant_of_declarationKind? declares,
    Nat.lt_one_iff.mpr (Line.declarationKind?_eq_some_iff.mp declares).1⟩

/-- What stands above a declaration does not matter to how its lines are read. -/
theorem Outline.read_congr_of_declared {header : Line} {kind : DeclarationKind}
    {below below' : List Line} (declares : header.declarationKind? = some kind) (above : List Line)
    (same : Declaration.read kind header below = Declaration.read kind header below') :
    read (above ++ header :: below) = read (above ++ header :: below') := by
  have significant := Line.significant_of_declarationKind? declares
  exact (Outlies.of_declares declares below).outline_congr (.of_declares declares below') above
    (read_declared_congr significant declares same)

/-- Lines that are nested where they are kept do not matter. -/
theorem OwnsNested.outline_eq {above tail tail' : List Line} {line : Line}
    (owns : OwnsNested above line)
    (same : afterBlock line.inner tail = afterBlock line.inner tail') :
    Outline.read (above ++ line :: tail) = Outline.read (above ++ line :: tail') := by
  cases owns with
  | integration child =>
    obtain ⟨front, header, between, rfl, declares, child⟩ := child
    simp only [List.append_assoc, List.cons_append]
    refine Outline.read_congr_of_declared declares front ?_
    exact congrArg (Except.map _) (readIntegrations_same child same)
  | setting child unnamed plain =>
    obtain ⟨front, header, between, rfl, declares, child⟩ := child
    simp only [List.append_assoc, List.cons_append]
    refine Outline.read_congr_of_declared declares front ?_
    exact congrArg (Except.map _) (readDeploy_same_setting child same unnamed plain)
  | environment child opens inner =>
    obtain ⟨front, header, between, rfl, declares, child⟩ := child
    simp only [List.append_assoc, List.cons_append]
    refine Outline.read_congr_of_declared declares front ?_
    exact congrArg (Except.map _) (readDeploy_same_environment child opens inner same)

/-- A deploy block in a source without faults, whose lines may give way to others. -/
theorem Outline.read_deploy {front below : List Line} {header : Line}
    (declares : header.declarationKind? = some .deploy)
    (faultless : (read (front ++ header :: below)).fault? = none) :
    (read (afterBlock header.inner below)).fault? = none ∧ ∃ earlier, ∀ below',
      afterBlock header.inner below' = afterBlock header.inner below →
        (read (front ++ header :: below')).fault? = none ∧
        (read (front ++ header :: below')).declarations =
          earlier ++ .deploy (.ofEntries (DeployEntry.read (block header.inner below'))) ::
            (read (afterBlock header.inner below)).declarations := by
  have significant := Line.significant_of_declarationKind? declares
  have outlies (lines : List Line) : Outlies 1 (header :: lines) := .of_declares declares lines
  rcases read_above_seam front with ⟨stopped, stays⟩ | goes
  · rw [stays _ (outlies below)] at faultless
    rw [faultless] at stopped
    cases stopped
  · rw [goes _ (outlies below), fault?_append, Option.or_eq_none_iff] at faultless
    obtain ⟨earlier, here⟩ := faultless
    by_cases formed : Header.isUnnamed header.text
    · have reading (lines : List Line) : Declaration.read .deploy header lines =
          .ok (.deploy (.ofEntries (DeployEntry.read (block header.inner lines))),
            afterBlock header.inner lines) := by
        simp only [Declaration.read, readDeploy, readUnnamed, formed, if_true]
        rfl
      rw [read_declared significant declares (reading below), fault?_declared,
        Option.or_eq_none_iff] at here
      refine ⟨here.2, (read front).declarations, fun below' same => ?_⟩
      rw [goes _ (outlies below'), read_declared significant declares (reading below'), same,
        fault?_append, earlier, fault?_declared, here.2, declarations, List.filterMap_append]
      exact ⟨rfl, rfl⟩
    · have reading : Declaration.read .deploy header below =
          .error (.declaration header.keyword? header.text) := by
        simp only [Declaration.read, readDeploy, readUnnamed, if_neg formed]
        rfl
      rw [read_malformed significant declares reading, fault?_malformed] at here
      cases here

/-- Without a fault there is a deployment exactly if a line declares one. -/
theorem Outline.deploy_isSome_iff {lines : List Line} (faultless : (read lines).fault? = none) :
    (Document.ofDeclarations (read lines).declarations).deploy.isSome ↔
      ∃ line ∈ lines, line.declarationKind? = some .deploy := by
  have announced := (read_covers lines).announced faultless
  rw [(Document.ofDeclarations_agrees _).deploy, Document.names, ne_eq, List.map_eq_nil_iff,
    List.filter_eq_nil_iff, Document.ofDeclarations]
  constructor
  · intro listed
    simp only [not_forall, not_not] at listed
    obtain ⟨entry, among, kind⟩ := listed
    obtain ⟨line, member, run, _⟩ := exists_of_mem_forall₂ announced.flip among
    obtain ⟨member, declares⟩ := List.mem_filter.mp member
    obtain ⟨_, other, atMargin⟩ := Line.declares_iff.mp declares
    obtain ⟨margin, _⟩ := Line.declarationKind?_eq_some_iff.mp atMargin
    rw [of_decide_eq_true kind] at run
    exact ⟨line, member, Line.declarationKind?_eq_some_iff.mpr ⟨margin, run⟩⟩
  · rintro ⟨line, member, declares⟩ none
    have starts := Line.declares_iff.mpr ⟨Line.significant_of_declarationKind? declares, _, declares⟩
    obtain ⟨entry, among, run, _⟩ :=
      exists_of_mem_forall₂ announced (List.mem_filter.mpr ⟨member, starts⟩)
    have kind := (Line.declarationKind?_eq_some_iff.mp declares).2.symm.trans run
    exact none entry among (decide_eq_true (DeclarationKind.keyword_injective kind).symm)

/-- Of two documents that differ in one deployment, the one is the other but for the last deployment,
and that is the same in both exactly if another one follows or the two are equal. -/
theorem Document.ofDeclarations_deploy (front after : List Declaration) (config config' : DeployConfig) :
    ∃ last, ofDeclarations (front ++ .deploy config' :: after) =
        { ofDeclarations (front ++ .deploy config :: after) with deploy := some last } ∧
      ((ofDeclarations (front ++ .deploy config :: after)).deploy = some last ↔
        (ofDeclarations after).deploy.isSome ∨ config = config') := by
  have last (config : DeployConfig) : (ofDeclarations (front ++ .deploy config :: after)).deploy =
      some ((ofDeclarations after).deploy.getD config) := by
    simp only [ofDeclarations, List.filterMap_append, List.filterMap_cons, List.getLast?_append,
      List.getLast?_cons, Option.some_or]
  refine ⟨(ofDeclarations after).deploy.getD config', ?_, ?_⟩
  · rw [← last config']
    simp only [ofDeclarations, List.filterMap_append, List.filterMap_cons, List.map_append,
      List.map_cons, Declaration.entry]
  · rw [last config, Option.some_inj]
    cases (ofDeclarations after).deploy <;> simp

/-- What the lines nested below a line of a deploy block add to it, when these texts follow. -/
def DeployConfig.ofNested (line : Line) (raws : List Text) : DeployConfig :=
  ofEntries (DeployEntry.nested line (block line.inner (raws.map Line.ofRaw)))

/-- What the rest of a deploy block adds to it after a line, when these texts follow. -/
def DeployConfig.ofRest (line : Line) (raws : List Text) : DeployConfig :=
  ofEntries (DeployEntry.read (block 1 (afterBlock line.inner (raws.map Line.ofRaw))))

/-- Texts that differ in what is nested below a line of a deploy block give it one deployment exactly
if they add the same environments, and the platform is named after them or is the same as far as
them. -/
theorem DeployConfig.ofEntries_child_iff {header line : Line} {between : List Line}
    (child : header.IsChild between line) (margin : header.inner = 1) {raws raws' below : List Text}
    (rest : afterBlock line.inner (raws.map Line.ofRaw) = afterBlock line.inner (below.map Line.ofRaw))
    (rest' : afterBlock line.inner (raws'.map Line.ofRaw) =
      afterBlock line.inner (below.map Line.ofRaw)) :
    ofEntries (DeployEntry.read (block 1 (between ++ line :: raws.map Line.ofRaw))) =
        ofEntries (DeployEntry.read (block 1 (between ++ line :: raws'.map Line.ofRaw))) ↔
      (ofNested line raws).environments = (ofNested line raws').environments ∧
        ((ofRest line below).platform.isSome ∨ (ofNested line raws).platform.or line.platform? =
          (ofNested line raws').platform.or line.platform?) := by
  have ordered : 1 ≤ line.inner := Nat.succ_pos _
  have inner (lines : List Line) : block line.inner (block 1 lines) = block line.inner lines := by
    unfold block
    rw [List.takeWhile_takeWhile]
    congr 1
    funext other
    rw [Bool.eq_iff_iff, decide_eq_true_eq]
    exact ⟨And.left, fun deep => ⟨deep, Line.within_mono ordered deep⟩⟩
  have cut (lines : List Line) : DeployEntry.read (block 1 (between ++ line :: lines)) =
      (DeployEntry.read between ++ line.platform?.toList.map DeployEntry.platform) ++
        (DeployEntry.nested line (block line.inner lines) ++
          DeployEntry.read (block 1 (afterBlock line.inner lines))) := by
    rw [← margin, child.block_eq, child.settings_eq, margin, inner, afterBlock_block ordered]
  rw [cut, cut, rest, rest', ofEntries_midst_iff, ofEntries_append, ofEntries_platforms]
  unfold ofRest ofNested
  cases names : line.platform? with
  | some name => rw [Option.some_or]
  | none => rw [platform_nested names, platform_nested names]; simp

section

variable {source source' raw : Text} {above body body' below : List Text}

/-- Lines that are nested below a line may be left out above those that follow. -/
theorem afterBlock_nested
    (deeper : ∀ other ∈ body, (LineKind.ofText (Text.trim other)).isSignificant →
      indentOf raw < indentOf other) (below : List Text) :
    afterBlock (Line.ofRaw raw).inner ((body ++ below).map Line.ofRaw) =
      afterBlock (Line.ofRaw raw).inner (below.map Line.ofRaw) := by
  have raws : (body.map Line.ofRaw).map Line.raw = body := by
    rw [List.map_map]
    exact List.map_id _
  rw [List.map_append]
  exact afterBlock_owned (raws.symm ▸ deeper) _

end

/-- Nothing is declared by what a header is deeper than. -/
theorem Passes.exists_declared_iff {header : Line} {lines rest : List Line}
    (passes : Passes header.inner lines rest) (kind : DeclarationKind) :
    (∃ other ∈ lines, other.declarationKind? = some kind) ↔
      ∃ other ∈ rest, other.declarationKind? = some kind := by
  have among (list : List Line) : (∃ other ∈ list, other.declarationKind? = some kind) ↔
      ∃ other ∈ list.filter Line.declares, other.declarationKind? = some kind := by
    refine exists_congr fun other => ?_
    rw [List.mem_filter, and_assoc]
    refine and_congr_right fun _ => ⟨fun declares => ⟨?_, declares⟩, And.right⟩
    exact Line.declares_iff.mpr ⟨Line.significant_of_declarationKind? declares, kind, declares⟩
  rw [among, among rest, passes.filter_declares]

/-- What is nested below a child of the integrations, below a line of a deploy block that neither names
the platform nor opens the environments, or below an environment does not matter: with any other such
lines the document is the same. Below any line of a deploy block they matter to the deployment alone,
and only so far as they are read as environments or as the platform. -/
theorem Document.parse_nested {source source' raw : Text} {above body body' below : List Text}
    {document : Document} (lines : Text.splitOn '\n' source = above ++ raw :: (body ++ below))
    (lines' : Text.splitOn '\n' source' = above ++ raw :: (body' ++ below))
    (deeper : ∀ other ∈ body ++ body',
      (LineKind.ofText (Text.trim other)).isSignificant → indentOf raw < indentOf other)
    (parsed : parse source = .ok document) :
    (OwnsNested (above.map Line.ofRaw) (Line.ofRaw raw) → parse source' = .ok document) ∧
    ((Line.ofRaw raw).IsChildOf .deploy (above.map Line.ofRaw) →
      ∃ last, parse source' = .ok { document with deploy := some last } ∧
        (document.deploy = some last ↔
          (∃ other ∈ below.map Line.ofRaw, other.declarationKind? = some .deploy) ∨
          (DeployConfig.ofNested (.ofRaw raw) (body ++ below)).environments =
              (DeployConfig.ofNested (.ofRaw raw) (body' ++ below)).environments ∧
            ((DeployConfig.ofRest (.ofRaw raw) below).platform.isSome ∨
              (DeployConfig.ofNested (.ofRaw raw) (body ++ below)).platform.or
                  (Line.ofRaw raw).platform? =
                (DeployConfig.ofNested (.ofRaw raw) (body' ++ below)).platform.or
                  (Line.ofRaw raw).platform?))) := by
  have rest := afterBlock_nested (fun other member =>
    deeper other (List.mem_append_left _ member)) below
  have rest' := afterBlock_nested (fun other member =>
    deeper other (List.mem_append_right _ member)) below
  have same := rest.trans rest'.symm
  simp only [parse_eq_ok_raws, lines, lines', List.map_append, List.map_cons] at parsed ⊢
  simp only [← List.map_append] at parsed ⊢
  refine ⟨fun owns => owns.outline_eq same ▸ parsed, ?_⟩
  rintro ⟨front, header, between, split, declares, child⟩
  obtain ⟨faultless, rfl⟩ := parsed
  have margin : header.inner = 1 := by
    rw [Line.inner, (Line.declarationKind?_eq_some_iff.mp declares).1]
  have later : (∃ other ∈ afterBlock header.inner
      (between ++ Line.ofRaw raw :: (body ++ below).map Line.ofRaw),
        other.declarationKind? = some .deploy) ↔
      ∃ other ∈ below.map Line.ofRaw, other.declarationKind? = some .deploy := by
    rw [child.afterBlock_eq, ← (afterBlock_passes header.inner _).exists_declared_iff,
      (afterBlock_passes (Line.ofRaw raw).inner _).exists_declared_iff, rest,
      ← (afterBlock_passes (Line.ofRaw raw).inner _).exists_declared_iff]
  rw [split] at faultless ⊢
  simp only [List.append_assoc, List.cons_append] at faultless ⊢
  obtain ⟨onward, earlier, reads⟩ := Outline.read_deploy declares faultless
  obtain ⟨_, given⟩ := reads _ rfl
  obtain ⟨faultless', given'⟩ := reads _ (child.cut_same same).2.symm
  obtain ⟨last, replaced, unchanged⟩ := ofDeclarations_deploy earlier _ _ _
  refine ⟨last, ⟨faultless', ?_⟩, ?_⟩
  · rw [given', given]
    exact replaced
  · rw [given]
    refine unchanged.trans (or_congr ?_ ?_)
    · exact (Outline.deploy_isSome_iff onward).trans later
    · rw [margin]
      exact DeployConfig.ofEntries_child_iff child margin rest rest'

/-- Below an environment stands what would be another one elsewhere, and below the platform something
that names an environment. -/
theorem Document.parse_nested_environments :
    let above : List Text := ["deploy:", "  platform: web", "  environments:"]
    let source : Text := "deploy:\n  platform: web\n  environments:\n    a:\n    b:\n"
    let source' : Text :=
      "deploy:\n  platform: web\n  environments:\n    a:\n      c:\n# d:\n        e:\n    b:\n"
    let leaking : Text :=
      "deploy:\n  platform: web\n    environments:\n      c:\n  environments:\n    a:\n    b:\n"
    ∃ document, parse source = .ok document ∧
      document.deploy = some ⟨some "web".toList, ["a", "b"]⟩ ∧
      OwnsNested (above.map Line.ofRaw) (.ofRaw "    a:") ∧ parse source' = .ok document ∧
      ∃ last, parse leaking = .ok { document with deploy := some last } ∧
        document.deploy ≠ some last := by
  intro above source source' leaking
  have parsed := parse_eq_ok.mpr
    ⟨show (Outline.ofSource source).fault? = none by decide +kernel, rfl⟩
  have platform : (Line.ofRaw "  platform: web").IsChildOf .deploy [.ofRaw "deploy:"] :=
    ⟨[], .ofRaw "deploy:", [], rfl, by decide +kernel, by decide +kernel, by decide +kernel, by simp⟩
  have opens : (Line.ofRaw "  environments:").IsChildOf .deploy
      [.ofRaw "deploy:", .ofRaw "  platform: web"] :=
    ⟨[], .ofRaw "deploy:", [.ofRaw "  platform: web"], rfl, by decide +kernel, by decide +kernel,
      by decide +kernel, by decide +kernel⟩
  have owns : OwnsNested (above.map Line.ofRaw) (.ofRaw "    a:") :=
    @OwnsNested.environment _ [] _ _ opens (by decide +kernel)
      ⟨by decide +kernel, by decide +kernel, by simp⟩
  have nested := @parse_nested source source' "    a:" above [] ["      c:", "# d:", "        e:"]
    ["    b:", ""] _ (by decide +kernel) (by decide +kernel) (by decide +kernel) parsed
  obtain ⟨last, parsed', unchanged⟩ := (@parse_nested source leaking "  platform: web" ["deploy:"] []
    ["    environments:", "      c:"] ["  environments:", "    a:", "    b:", ""] _
    (by decide +kernel) (by decide +kernel) (by decide +kernel) parsed).2 platform
  refine ⟨_, parsed, by decide +kernel, owns, nested.1 owns, last, parsed', ?_⟩
  rw [ne_eq, unchanged]
  decide +kernel

/-- An environment below the platform is read as one of the deploy block. -/
theorem Document.environments_below_platform :
    let source : Text := "deploy:\n  platform: web\n"
    let source' : Text := "deploy:\n  platform: web\n    environments:\n      prod:\n"
    (Line.ofRaw "  platform: web").IsChildOf .deploy [.ofRaw "deploy:"] ∧
      ∃ document document', parse source = .ok document ∧ parse source' = .ok document' ∧
        document.deploy = some ⟨some "web".toList, []⟩ ∧
        document'.deploy = some ⟨some "web".toList, ["prod"]⟩ := by
  intro source source'
  have child : (Line.ofRaw "  platform: web").IsChildOf .deploy [.ofRaw "deploy:"] :=
    ⟨[], .ofRaw "deploy:", [], rfl, by decide +kernel, by decide +kernel, by decide +kernel, by simp⟩
  have parsed := parse_eq_ok.mpr
    ⟨show (Outline.ofSource source).fault? = none by decide +kernel, rfl⟩
  have parsed' := parse_eq_ok.mpr
    ⟨show (Outline.ofSource source').fault? = none by decide +kernel, rfl⟩
  exact ⟨child, _, _, parsed, parsed', by decide +kernel, by decide +kernel⟩

end AppDescription
