import ValueShadow.Proofs.Files.Output
import ValueShadow.Proofs.QualifiedName

/-!
# What a generation writes

A generation into an empty directory writes every unit of its session to a file of its own and
nothing else (`Manifest.one_file_per_unit`), if the prefix of the names holds no slash and no zero
and the file system allows the paths. A path can be too long even if all names on it are short
(`not_one_file_per_unit_deep`). Whatever the prefix, what is written are the paths of units; they
stay inside the output directory exactly if the prefix holds no slash
(`Manifest.inside_directory_iff`), which nothing checks (`not_inside_directory_escaping`).
-/

namespace ValueShadow

open ValueShadow.Path Text

/-- The steps to the file of a generated class, and its content. -/
def GeneratedClass.stepsAndContent (format : OutputFormat) (generated : GeneratedClass) :
    Place × String :=
  (generated.pathSteps format, format.render generated)

/-- The steps of a unit name a file in a directory if the prefix of the names holds no slash and no
zero, and the file system allows the lengths of the names and of the path. -/
theorem Session.namesFile_pathSteps {session : Session} {unit : GeneratedClass} {tree : FileTree}
    {directory : String} {format : OutputFormat} {place : Place}
    (hunit : unit ∈ session.run.units)
    (hslash : '/' ∉ session.settings.naming.generatedPrefix.toList)
    (hzero : '\x00' ∉ session.settings.naming.generatedPrefix.toList)
    (hnames : ∀ component ∈ components (unit.outputPath directory format),
      component.utf8ByteSize ≤ 255)
    (hpath : (unit.outputPath directory format).utf8ByteSize < 4096)
    (hdirectory : tree.follow (tree.start directory) (components directory) = .ok place) :
    unit.outputPath directory format = below directory (unit.pathSteps format) ∧
      FileTree.NamesFile directory (unit.pathSteps format) := by
  have hne : unit.pathSteps format ≠ [] := by simp [GeneratedClass.pathSteps]
  obtain ⟨heq, hplain⟩ := (staysInside_iff hunit).2 hslash
  have hcomponents : components (below directory (unit.pathSteps format)) =
      components directory ++ unit.pathSteps format := components_below hplain
  have hfree : ∀ step ∈ unit.pathSteps format, '\x00' ∉ step.toList := by
    intro step hstep
    rcases List.mem_append.1 hstep with hpackage | hfile
    · have hidentifier := isIdentifier_packageSegments hunit hpackage
      exact not_mem_of_isIdentifier hidentifier isIdentifierPart_zero
    · rw [List.mem_singleton.1 hfile, mem_fileName_iff hunit isIdentifierPart_zero (by decide)]
      exact hzero
  rw [heq] at hnames hpath
  refine ⟨heq, hne, hplain, ?_, FileTree.isPath_of_components hpath ?_⟩
  · intro step hstep
    rw [hcomponents] at hnames
    simp [FileTree.isName, hnames step (List.mem_append_right _ hstep), hfree step hstep]
  · rw [hcomponents]
    refine List.forall_mem_append.2 ⟨fun component hcomponent => ?_, hfree⟩
    obtain rfl | hname := FileTree.isName_of_follow hdirectory hcomponent
    · decide
    · simp [FileTree.isName] at hname
      exact hname.2

/-- Any two units are written apart from each other. -/
theorem Session.pathSteps_pairwise (session : Session) (format : OutputFormat) :
    session.run.units.Pairwise fun a b =>
      FileTree.Apart (a.pathSteps format) (b.pathSteps format) := by
  refine session.units_pairwise.imp_of_mem fun {a b} ha hb hne => ?_
  obtain ⟨hvalue, -⟩ := hne
  constructor
  · intro h
    rw [eq_of_pathSteps_onWay ha hb h] at hvalue
    exact hvalue rfl
  · intro h
    rw [eq_of_pathSteps_onWay hb ha h] at hvalue
    exact hvalue rfl

/-- The files of units whose paths the file system allows are all written into an empty
directory. -/
theorem Manifest.exists_written {manifest : Manifest} {directory : String} {format : OutputFormat}
    {tree : FileTree} {place : Place}
    (hfiles : ∀ unit ∈ manifest.session.run.units,
      unit.outputPath directory format = below directory (unit.pathSteps format) ∧
        FileTree.NamesFile directory (unit.pathSteps format))
    (hdirectory : tree.follow (tree.start directory) (components directory) = .ok place)
    (hempty : ∀ steps, steps ≠ [] → tree.node? (place ++ steps) = none) :
    ∃ tree',
      (writeAll FileTree.store (manifest.plan directory format).files).run tree =
        ((manifest.session.run.units.map (·.outputPath directory format), none), tree') ∧
      tree.Grows place tree' ∧
      tree'.HoldsBelow place (manifest.session.run.units.map (·.stepsAndContent format)) := by
  have hplan : (manifest.plan directory format).files =
      (manifest.session.run.units.map (·.stepsAndContent format)).map
        fun entry => ⟨below directory entry.1, entry.2⟩ := by
    rw [List.map_map]
    refine List.map_congr_left fun unit hunit => ?_
    rw [(hfiles unit hunit).1]
    rfl
  have hwritten : ((manifest.session.run.units.map (·.stepsAndContent format)).map
        fun entry => below directory entry.1) =
      manifest.session.run.units.map (·.outputPath directory format) := by
    rw [List.map_map]
    exact List.map_congr_left fun unit hunit => (hfiles unit hunit).1.symm
  have hnamed : ∀ entry ∈ manifest.session.run.units.map (·.stepsAndContent format),
      FileTree.NamesFile directory entry.1 :=
    List.forall_mem_map.2 fun unit hunit => (hfiles unit hunit).2
  have hapart : (manifest.session.run.units.map (·.stepsAndContent format)).Pairwise
      fun a b => FileTree.Apart a.1 b.1 :=
    List.pairwise_map.2 (manifest.session.pathSteps_pairwise format)
  have hnothing : tree.HoldsBelow place [] :=
    ⟨fun steps hne content => by simp [hempty steps hne],
      fun steps hne => by simp [hempty steps hne]⟩
  rw [hplan, ← hwritten]
  exact FileTree.exists_writeAll hdirectory hnothing hnamed hapart

/-- A generation into an empty directory writes each unit to a file of its own and nothing else. If
the prefix holds no slash and no zero and no name and no path is too long, no write fails; the files
below the directory are then those of the units at their paths, each with what is rendered of its
unit, and the rest of the tree is as it was. The paths of two units are different, and neither is on
the way to the other. -/
theorem Manifest.one_file_per_unit {manifest : Manifest} {directory : String}
    {format : OutputFormat} {tree : FileTree} {place : Place}
    (hslash : '/' ∉ manifest.settings.naming.generatedPrefix.toList)
    (hzero : '\x00' ∉ manifest.settings.naming.generatedPrefix.toList)
    (hnames : ∀ unit ∈ manifest.session.run.units,
      ∀ component ∈ components (unit.outputPath directory format), component.utf8ByteSize ≤ 255)
    (hpaths : ∀ unit ∈ manifest.session.run.units,
      (unit.outputPath directory format).utf8ByteSize < 4096)
    (hdirectory : tree.follow (tree.start directory) (components directory) = .ok place)
    (hempty : ∀ steps, steps ≠ [] → tree.node? (place ++ steps) = none) :
    ∃ tree',
      (writeAll FileTree.store (manifest.plan directory format).files).run tree =
        ((manifest.session.run.units.map (·.outputPath directory format), none), tree') ∧
      tree.Grows place tree' ∧
      (∀ steps, steps ≠ [] → ∀ content,
        tree'.node? (place ++ steps) = some (.file content) ↔
          ∃ unit ∈ manifest.session.run.units,
            tree'.filePlace? (unit.outputPath directory format) = some (place ++ steps) ∧
              format.render unit = content) ∧
      (∀ unit ∈ manifest.session.run.units,
        tree'.readText (unit.outputPath directory format) = some (format.render unit)) ∧
      manifest.session.run.units.Pairwise fun a b =>
        a.outputPath directory format ≠ b.outputPath directory format ∧
          FileTree.Apart (components (a.outputPath directory format))
            (components (b.outputPath directory format)) := by
  have hfiles := fun unit hunit => Session.namesFile_pathSteps hunit hslash hzero
    (hnames unit hunit) (hpaths unit hunit) hdirectory
  obtain ⟨tree', hrun, hgrows, hholds⟩ := exists_written hfiles hdirectory hempty
  have hplace : ∀ unit ∈ manifest.session.run.units,
      tree'.filePlace? (unit.outputPath directory format) =
        some (place ++ unit.pathSteps format) := by
    intro unit hunit
    rw [(hfiles unit hunit).1]
    exact hholds.filePlace? (hfiles unit hunit).2 (hgrows.follow hdirectory)
      (List.mem_map_of_mem hunit)
  refine ⟨tree', hrun, hgrows, ?_, ?_, ?_⟩
  · intro steps hne content
    rw [hholds.file steps hne, List.mem_map]
    refine exists_congr fun unit => and_congr_right fun hunit => ?_
    rw [hplace unit hunit, GeneratedClass.stepsAndContent, Prod.mk.injEq, Option.some.injEq,
      List.append_cancel_left_eq]
  · intro unit hunit
    have hfile := (hholds.file _ (hfiles unit hunit).2.nonempty _).2 (List.mem_map_of_mem hunit)
    simp [FileTree.readText, hplace unit hunit, hfile]
  · refine (manifest.session.pathSteps_pairwise format).imp_of_mem fun {a b} ha hb hapart => ?_
    have hcomponents : FileTree.Apart (components (a.outputPath directory format))
        (components (b.outputPath directory format)) := by
      rw [(hfiles a ha).1, (hfiles b hb).1, components_below (hfiles a ha).2.plain,
        components_below (hfiles b hb).2.plain]
      exact ⟨mt (List.prefix_append_right_inj _).1 hapart.1,
        mt (List.prefix_append_right_inj _).1 hapart.2⟩
    refine ⟨fun heq => hcomponents.1 ?_, hcomponents⟩
    rw [heq]

/-- An output directory with nothing in it. -/
def emptyOutput : FileTree :=
  ⟨[], [(["out"], .directory)]⟩

/-- Nothing is below the empty output directory. -/
theorem node?_emptyOutput {steps : Place} (hne : steps ≠ []) :
    emptyOutput.node? (["out"] ++ steps) = none := by
  simp [emptyOutput, FileTree.node?, lookup_cons_pair, hne]

/-- A shop with an order and a line inside it, which is generated for the order's sake and asks for
an earlier stage of its class. -/
def shop : Manifest :=
  ⟨{}, [
    ⟨"shop.Order", none, none, true, [.bare (.ofDotted ({} : Settings).marker)],
      [⟨"line", "shop.cart.Order.Line", none, []⟩]⟩,
    ⟨"shop.cart.Order.Line", some "$AutoValue_Order_Line", none, true, [], []⟩]⟩

/-- The paths of the order and of its line. -/
theorem outputPath_shop : shop.session.run.units.map (·.outputPath "out" .java) =
    ["out/shop/AutoValue_Order.java", "out/shop/cart/$AutoValue_Order_Line.java"] := by
  decide +kernel

/-- The shop is written to two files in directories of their own. -/
theorem one_file_per_unit_shop :
    ∃ tree', (writeAll FileTree.store (shop.plan "out" .java).files).run emptyOutput =
        ((["out/shop/AutoValue_Order.java", "out/shop/cart/$AutoValue_Order_Line.java"], none),
          tree') ∧
      ∀ unit ∈ shop.session.run.units,
        tree'.readText (unit.outputPath "out" .java) = some (OutputFormat.java.render unit) := by
  have hlimits : ∀ path ∈ shop.session.run.units.map (·.outputPath "out" .java),
      (∀ component ∈ components path, component.utf8ByteSize ≤ 255) ∧
        path.utf8ByteSize < 4096 := by
    rw [outputPath_shop]
    decide
  have hnames : ∀ unit ∈ shop.session.run.units,
      ∀ component ∈ components (unit.outputPath "out" .java), component.utf8ByteSize ≤ 255 :=
    fun unit hunit => (hlimits _ (List.mem_map_of_mem hunit)).1
  have hsizes : ∀ unit ∈ shop.session.run.units,
      (unit.outputPath "out" .java).utf8ByteSize < 4096 :=
    fun unit hunit => (hlimits _ (List.mem_map_of_mem hunit)).2
  have hdirectory : emptyOutput.follow (emptyOutput.start "out") (components "out") = .ok ["out"] :=
    rfl
  obtain ⟨tree', hrun, -, -, hread, -⟩ := Manifest.one_file_per_unit (by decide) (by decide)
    hnames hsizes hdirectory fun _ => node?_emptyOutput
  rw [outputPath_shop] at hrun
  exact ⟨tree', hrun, hread⟩

/-- What holds of one letter and of the last step holds of all steps of a path of that letter. -/
theorem forall_mem_replicate_concat {p : String → Prop} {last : String} (depth : Nat) (ha : p "a")
    (hlast : p last) : ∀ step ∈ List.replicate depth "a" ++ [last], p step := by
  refine List.forall_mem_append.2 ⟨fun step hstep => ?_, by simpa using hlast⟩
  rwa [List.eq_of_mem_replicate hstep]

/-- The size of a path of steps of one letter and a last one. -/
theorem utf8ByteSize_joined_replicate (depth : Nat) (last : String) :
    (joined '/' (List.replicate depth "a" ++ [last])).utf8ByteSize =
      2 * depth + last.utf8ByteSize := by
  induction depth with
  | zero => simp [joined]
  | succ depth ih =>
    have hcons : joined '/' (["a"] ++ (List.replicate depth "a" ++ [last])) =
        joined '/' ["a"] ++ "/" ++ joined '/' (List.replicate depth "a" ++ [last]) :=
      joined_append (List.cons_ne_nil _ _) (by simp)
    have hstep : (joined '/' ["a"] ++ "/").utf8ByteSize = 2 := by decide
    rw [List.replicate_succ, List.cons_append, ← List.singleton_append, hcons,
      String.utf8ByteSize_append, hstep, ih]
    omega

/-- A package of so many segments. -/
def deepPackage (depth : Nat) : String :=
  joined '.' (List.replicate depth "a")

/-- A manifest with one marked class in a package of so many segments. -/
def deep (depth : Nat) : Manifest :=
  ⟨{}, [⟨joined '.' (List.replicate depth "a" ++ ["Order"]), none, none, true,
    [.bare (.ofDotted ({} : Settings).marker)], []⟩]⟩

/-- The segments of the package are what it is made of. -/
theorem packageSegments_deep {depth : Nat} (hdepth : depth ≠ 0) (simpleName : String) :
    (QualifiedName.ofClass (deepPackage depth) simpleName).packageSegments =
      List.replicate depth "a" := by
  have hne : List.replicate depth "a" ≠ [] := by simpa using hdepth
  have hempty : ¬ (deepPackage depth).isEmpty = true := by
    rw [String.isEmpty_iff, deepPackage, joined_eq_empty_iff]
    · exact hne
    · intro part hpart
      rw [List.eq_of_mem_replicate hpart]
      decide
  refine (if_neg hempty).trans (segments_joined hne fun part hpart => ?_)
  rw [List.eq_of_mem_replicate hpart]
  decide

/-- The catalog holds the class in the deep package. -/
theorem session_deep (depth : Nat) :
    (deep depth).session =
      ⟨{}, [Session.markedClass (.ofClass (deepPackage depth) "Order") .empty]⟩ := by
  have hname : QualifiedName.ofDotted (joined '.' (List.replicate depth "a" ++ ["Order"])) =
      .ofClass (deepPackage depth) "Order" := by
    refine QualifiedName.ofDotted_eq_iff.2 ⟨List.replicate depth "a", ?_, ?_, rfl, .inr rfl⟩
    · exact fun segment hsegment => List.eq_of_mem_replicate hsegment ▸ rfl
    · exact segments_joined (by simp)
        (forall_mem_replicate_concat depth (by decide) (by decide))
  rw [← hname]
  rfl

/-- The class of the deep package has one unit, with a step for each segment. -/
theorem exists_deep_unit {depth : Nat} (hdepth : depth ≠ 0) :
    ∃ unit, (deep depth).session.run.units = [unit] ∧
      unit.pathSteps .java = List.replicate depth "a" ++ ["AutoValue_Order.java"] := by
  rw [session_deep]
  have hsimple : ∀ simpleName ∈ ["Order"], isIdentifier simpleName = true := by decide
  have hcheck : (QualifiedName.ofClass (deepPackage depth) "Order").check = .ok () := by
    rw [QualifiedName.check_eq_ok, packageSegments_deep hdepth]
    refine ⟨fun segment hsegment => ?_, hsimple⟩
    rw [List.eq_of_mem_replicate hsegment]
    decide
  let value := Session.markedClass (.ofClass (deepPackage depth) "Order") .empty
  have hmarked : value.isMarked ({} : Settings).marker = true := by
    simp [value, Session.markedClass, ValueClass.isMarked, Annotations.contains,
      AnnotationUse.isNamed, AnnotationUse.bare, QualifiedName.display_ofDotted]
  obtain ⟨unit, hgenerate, hwrapper⟩ :=
    GeneratedClass.exists_ofValue ({} : Settings).naming value hcheck rfl rfl
  refine ⟨unit, Session.run_units_singleton hmarked hgenerate, ?_⟩
  rw [GeneratedClass.pathSteps, GeneratedClass.fileName, hwrapper]
  have hfile : "AutoValue_" ++ joined '_' ["Order"] ++ "." ++ "java" = "AutoValue_Order.java" := by
    decide
  exact congrArg₂ (fun before file => before ++ [file]) (packageSegments_deep hdepth _) hfile

/-- The path of the unit leads along these steps. -/
theorem exists_deep_path {depth : Nat} (hdepth : depth ≠ 0) :
    ∃ unit, (deep depth).session.run.units = [unit] ∧ unit.outputPath "out" .java =
      below "out" (List.replicate depth "a" ++ ["AutoValue_Order.java"]) ∧
      components (unit.outputPath "out" .java) =
        "out" :: (List.replicate depth "a" ++ ["AutoValue_Order.java"]) := by
  obtain ⟨unit, hunits, hsteps⟩ := exists_deep_unit hdepth
  have hunit : unit ∈ (deep depth).session.run.units := by
    rw [hunits]
    exact .head _
  have hslash : '/' ∉ "AutoValue_".toList := by decide
  obtain ⟨hpath, hplain⟩ : unit.StaysInside "out" .java := (Session.staysInside_iff hunit).2 hslash
  refine ⟨unit, hunits, by rw [hpath, hsteps], ?_⟩
  rw [hpath, components_below hplain, hsteps]
  rfl

/-- A generation of a class in a package of that many segments fails. -/
theorem generation_deep_fails {depth : Nat} (hdepth : 2048 ≤ depth) (tree : FileTree) :
    ((writeAll FileTree.store ((deep depth).plan "out" .java).files).run tree).1.2 ≠ none := by
  obtain ⟨unit, hunits, hpath, -⟩ := exists_deep_path (Nat.ne_zero_of_lt hdepth)
  intro hnone
  have hfile : ⟨unit.outputPath "out" .java, OutputFormat.java.render unit⟩ ∈
      ((deep depth).plan "out" .java).files := by
    rw [Manifest.plan, hunits]
    exact .head _
  have hallowed := FileTree.isPath_of_writeAll hnone hfile
  have hsize : ("out" ++ separator "out").utf8ByteSize = 4 := by decide
  rw [hpath, FileTree.isPath, below, String.utf8ByteSize_append, hsize,
    utf8ByteSize_joined_replicate, Bool.and_eq_true, decide_eq_true_eq] at hallowed
  omega

/-- The file system does not allow the path of a class in too deep a package, though all names on
it are short. -/
theorem not_one_file_per_unit_deep :
    '/' ∉ (deep 2048).settings.naming.generatedPrefix.toList ∧
      '\x00' ∉ (deep 2048).settings.naming.generatedPrefix.toList ∧
      (∀ unit ∈ (deep 2048).session.run.units,
        ∀ component ∈ components (unit.outputPath "out" .java), component.utf8ByteSize ≤ 255) ∧
      emptyOutput.follow (emptyOutput.start "out") (components "out") = .ok ["out"] ∧
      (∀ steps, steps ≠ [] → emptyOutput.node? (["out"] ++ steps) = none) ∧
      ((writeAll FileTree.store ((deep 2048).plan "out" .java).files).run emptyOutput).1.2 ≠
        none := by
  refine ⟨?_, ?_, ?_, rfl, fun _ => node?_emptyOutput, generation_deep_fails le_rfl _⟩
  · change '/' ∉ "AutoValue_".toList
    decide
  · change '\x00' ∉ "AutoValue_".toList
    decide
  · obtain ⟨unit, hunits, -, hcomponents⟩ := exists_deep_path (Nat.succ_ne_zero 2047)
    rw [hunits]
    intro other hother
    obtain rfl := List.mem_singleton.1 hother
    rw [hcomponents, List.forall_mem_cons]
    exact ⟨by decide, forall_mem_replicate_concat 2048 (by decide) (by decide)⟩

/-- Every path that a generation writes is that of a unit, and it stays inside the output directory
exactly if the prefix of the names holds no slash. -/
theorem Manifest.inside_directory_iff (manifest : Manifest) (directory : String)
    (format : OutputFormat) :
    (∀ (tree : FileTree) (path : String),
      path ∈ ((writeAll FileTree.store (manifest.plan directory format).files).run tree).1.1 →
        ∃ unit ∈ manifest.session.run.units, path = unit.outputPath directory format) ∧
    ∀ unit ∈ manifest.session.run.units, unit.StaysInside directory format ↔
      '/' ∉ manifest.settings.naming.generatedPrefix.toList := by
  constructor
  · intro tree path hpath
    obtain ⟨hwritten, -⟩ := FileTree.written_cases FileTree.store
      (manifest.plan directory format).files tree
    obtain ⟨file, hfile, rfl⟩ := List.mem_map.1 (hwritten.subset hpath)
    obtain ⟨unit, hunit, rfl⟩ := List.mem_map.1 hfile
    exact ⟨unit, hunit, rfl⟩
  · exact fun unit => Session.staysInside_iff

/-- A manifest whose prefix leads to the directory above. -/
def escaping : Manifest :=
  ⟨{ naming := { generatedPrefix := "../" } },
    [⟨"com.example.Order", none, none, true, [.bare (.ofDotted ({} : Settings).marker)], []⟩]⟩

/-- What is written with this prefix. -/
theorem run_writeAll_escaping :
    ((writeAll FileTree.store (escaping.plan "out" .java).files).run emptyOutput).1 =
      (["out/com/example/../Order.java"], none) := by
  decide +kernel

/-- The units of the shop stay inside the output directory, and one with a slash in its prefix does
not. -/
theorem inside_directory_iff_shop :
    (∃ unit ∈ shop.session.run.units, unit.StaysInside "out" .java) ∧
      ∃ unit ∈ escaping.session.run.units, ¬ unit.StaysInside "out" .java := by
  obtain ⟨-, hinside⟩ := Manifest.inside_directory_iff shop "out" .java
  obtain ⟨hwritten, houtside⟩ := Manifest.inside_directory_iff escaping "out" .java
  obtain ⟨unit, hunit, -⟩ : ∃ unit ∈ shop.session.run.units,
      unit.outputPath "out" .java = "out/shop/AutoValue_Order.java" := by
    rw [← List.mem_map, outputPath_shop]
    exact .head _
  obtain ⟨other, hother, -⟩ := hwritten emptyOutput "out/com/example/../Order.java" (by
    rw [run_writeAll_escaping]
    exact .head _)
  refine ⟨⟨unit, hunit, (hinside unit hunit).2 (by decide)⟩, other, hother, fun h => ?_⟩
  exact (houtside other hother).1 h (by decide)

/-- A manifest that nothing keeps from being used is written beside the directory of its package. -/
theorem not_inside_directory_escaping :
    escaping.problem? = none ∧
      ((writeAll FileTree.store (escaping.plan "out" .java).files).run emptyOutput).1 =
        (["out/com/example/../Order.java"], none) ∧
      ∀ steps, (∀ step ∈ steps, IsPlain step) →
        below "out" steps ≠ "out/com/example/../Order.java" := by
  refine ⟨by decide, run_writeAll_escaping, fun steps hplain heq => ?_⟩
  have hcomponents := congrArg components heq
  rw [components_below hplain] at hcomponents
  have hup : components "out/com/example/../Order.java" =
      components "out" ++ ["com", "example", "..", "Order.java"] := by
    decide
  rw [hup] at hcomponents
  have hmem : ".." ∈ steps := by simp [List.append_cancel_left hcomponents]
  exact (hplain _ hmem).notUp rfl

end ValueShadow
