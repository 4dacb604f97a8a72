/-
Files that cannot be read are passed over.

In an encoding that is known, a file that cannot be opened and a file whose bytes have no meaning
give a unit without a text, and such a unit has no definitions (`contribution_of_fails`).  Nor has
the unit of an empty file, so to whoever parses them the two are the same (`parse_unitOf_emptied`).
A discovery does not look into files, so to empty some of them changes neither which files are
indexed nor their order.  Hence an index is the same whether such files are as they are or empty,
and it is made of what the other files contribute.

One failure is not passed over.  A codec may refuse the bytes of a file as a whole, as the one that
goes by a byte order mark does for want of such a mark, and that ends the index.
-/
import SwatchIndex.Proofs.Actions
import SwatchIndex.Proofs.Discovered
import SwatchIndex.Proofs.Failing
import SwatchIndex.Proofs.Joining
import SwatchIndex.Proofs.Shapes

namespace SwatchIndex

/-- There is nothing to parse in an empty text. -/
theorem parse_nil (source : Option Text) (limits : ScanLimits) :
    parse [] source limits = .ok [] := by
  have hcut : limits.cut [] = [] := by
    unfold ScanLimits.cut clipTo
    split
    · split
      · rfl
      · exact clip_nil _
    · rfl
  rw [Declaration.parse_eq, hcut, Declaration.clauses_of_unbroken Declaration.unbroken_nil,
    Declaration.within_nil]
  rfl

namespace Reading

/-! ### Reading a file -/

/-- The spelling is the name of an encoding that is known, with this codec. -/
def Names (codecs : Codecs) (spelling : Spelling) (codec : Codec) : Prop :=
  ∃ name, spelling.read = .ok name ∧ '\x00' ∉ name ∧ codecs name = some codec

/-- The file at a place cannot be opened, or some of its bytes have no meaning.  That the codec
refuses the bytes as a whole is another matter. -/
def Fails (tree : Tree) (codecs : Codecs) (encoding : Spelling) (p : Place) : Prop :=
  '\x00' ∉ p.text ∧ ∃ e, readFound tree codecs encoding p = .error e ∧
    ∀ message, e ≠ .text (.refused message)

variable {tree : Tree} {codecs : Codecs} {spelling : Spelling} {codec : Codec} {p : Place}

/-- In an encoding that is known, a file is opened and its bytes are read. -/
theorem readFound_eq (h : Names codecs spelling codec) (tree : Tree) (hp : '\x00' ∉ p.text) :
    readFound tree codecs spelling p =
      if Tree.isLongPath p.text then .error (.file ⟨.nameTooLong, p.text⟩)
      else (tree.read p).mapError (fun problem => .file ⟨problem, p.text⟩) >>= fun bytes =>
        (codec.readText bytes).mapError .text := by
  obtain ⟨name, hname, hnull, hcodec⟩ := h
  have hcheck : NullCharacter.inEncoding.check name = .ok () := by
    simp [NullCharacter.check, hnull]
  have hpath : NullCharacter.inPath.check p.text = .ok () := by
    simp [NullCharacter.check, hp]
  simp only [readFound, readFile, hname, Except.mapError, bind, Except.bind, hcheck, hpath,
    hcodec]
  split <;> rfl

/-- **A file that fails is passed over.** -/
theorem unitText_of_fails (h : Names codecs spelling codec) (hp : Fails tree codecs spelling p) :
    unitText (readFound tree codecs spelling p) = .ok none := by
  obtain ⟨hnull, e, he, hrefused⟩ := hp
  have hpassed : e.isPassedOver = true := by
    rw [readFound_eq h tree hnull] at he
    split at he
    · cases he
      rfl
    · cases hbytes : tree.read p with
      | error problem =>
          rw [hbytes] at he
          cases he
          rfl
      | ok bytes =>
          rw [hbytes] at he
          obtain ⟨cause, -, rfl⟩ := mapError_eq_error_iff.mp he
          cases cause with
          | undecodable cause => rfl
          | refused message => exact absurd rfl (hrefused message)
  simp only [unitText, he, hpassed, if_true]

/-- An empty file has an empty text, unless it is passed over. -/
theorem unitText_emptied (h : Names codecs spelling codec) (hempty : codec.decode [] = .ok [])
    (hp : '\x00' ∉ p.text) {places : List Place} (hleads : tree.leadsInto places p = true) :
    unitText (readFound (tree.emptied places) codecs spelling p) = .ok none ∨
      unitText (readFound (tree.emptied places) codecs spelling p) = .ok (some []) := by
  rw [readFound_eq h _ hp]
  split
  · exact .inl rfl
  · rcases Tree.read_emptied_of_leadsInto hleads with hnothing | ⟨problem, hproblem⟩
    · refine .inr ?_
      simp only [hnothing, Except.mapError, bind, Except.bind, Codec.readText, hempty]
      rfl
    · rw [hproblem]
      exact .inl rfl

/-- A file is read as before if others are emptied. -/
theorem readFound_emptied {places : List Place} (hleads : tree.leadsInto places p = false)
    (codecs : Codecs) (spelling : Spelling) :
    readFound (tree.emptied places) codecs spelling p = readFound tree codecs spelling p := by
  simp only [readFound, readFile, Tree.read_emptied_of_not_leadsInto hleads]

/-! ### What a file contributes -/

/-- What a file is read as. -/
def unitOf (tree : Tree) (codecs : Codecs) (spelling : Spelling) (p : Place) :
    Except ReadingError SourceUnit :=
  (unitText (readFound tree codecs spelling p)).map fun text => ⟨p.text, text⟩

/-- The definitions of a file, read and parsed alone. -/
def contribution (tree : Tree) (codecs : Codecs) (settings : Settings) (p : Place) :
    Except Fault (List Definition) :=
  (unitOf tree codecs settings.encoding p).mapError .reading >>= fun unit =>
    (Indexing.parseUnit settings unit).mapError .numeral

/-- A file that fails contributes nothing. -/
theorem contribution_of_fails {settings : Settings} (h : Names codecs settings.encoding codec)
    (hp : Fails tree codecs settings.encoding p) :
    contribution tree codecs settings p = .ok [] := by
  rw [contribution, unitOf, unitText_of_fails h hp]
  rfl

/-- To whoever parses it, a file that fails is as good as an empty one. -/
theorem parse_unitOf_emptied {settings : Settings} (h : Names codecs settings.encoding codec)
    (hempty : codec.decode [] = .ok []) {places : List Place}
    (hp : tree.leadsInto places p = true → Fails tree codecs settings.encoding p) :
    (unitOf (tree.emptied places) codecs settings.encoding p).map (Indexing.parseUnit settings) =
      (unitOf tree codecs settings.encoding p).map (Indexing.parseUnit settings) := by
  cases hleads : tree.leadsInto places p with
  | false => rw [unitOf, unitOf, readFound_emptied hleads]
  | true =>
      have hfails := hp hleads
      have hthere : (unitOf tree codecs settings.encoding p).map (Indexing.parseUnit settings) =
          .ok (.ok []) := by
        rw [unitOf, unitText_of_fails h hfails]
        rfl
      rw [hthere, unitOf]
      rcases unitText_emptied h hempty hfails.1 hleads with hnone | hempty
      · rw [hnone]
        rfl
      · rw [hempty]
        exact congrArg Except.ok (parse_nil _ _)

end Reading

namespace Indexing

/-- Only what the units are parsed to counts. -/
theorem index_congr {settings : Settings} {units units' : List SourceUnit}
    (h : units.map (parseUnit settings) = units'.map (parseUnit settings)) (next : Nat) :
    index settings units next = index settings units' next := by
  have hparse (us : List SourceUnit) :
      parseUnits settings us = (us.map (parseUnit settings)).mapM id := by
    rw [parseUnits, List.mapM_map]
    rfl
  simp only [index, hparse, h]

end Indexing

namespace Session

open Act Reading

variable {s : Session} {path : Text} {settings : Settings} {codec : Codec}

/-! ### Indexing a workspace -/

/-- A discovery is the same in all trees of one shape. -/
theorem on_discover_of_sameShape {tree : Tree} (h : s.tree.SameShape tree) (path : Text)
    (included excluded : List Spelling) (bound : Int) :
    ((discover path included excluded bound).on { s with tree }).1 =
      ((discover path included excluded bound).on s).1 := by
  rw [on_discover, on_discover]
  cases NullCharacter.inPath.check path with
  | error e => rfl
  | ok _ => exact congrArg (Except.mapError Fault.discovery) (h.discover ..).symm

/-- An index is made of what the files contribute, in the order of discovery. -/
theorem on_indexWorkspace_eq_ok_iff {files : List Place}
    (hfiles : ((discover path settings.included settings.excluded settings.maxFiles).on s).1 =
      .ok files) {r : Registry} :
    ((indexWorkspace path settings).on s).1 = .ok r ↔
      ∃ parsed, files.mapM (contribution s.tree s.readers.codecs settings) = .ok parsed ∧
        r = (Registry.build parsed s.nextVersion).resolve settings.resolveDepth
          (s.nextVersion + 1) := by
  have hcontribution : ∀ p ds, contribution s.tree s.readers.codecs settings p = .ok ds ↔
      ∃ u, unitOf s.tree s.readers.codecs settings.encoding p = .ok u ∧
        Indexing.parseUnit settings u = .ok ds := by
    intro p ds
    simp only [contribution, bind_eq_ok_iff, mapError_eq_ok_iff]
  rw [on_indexWorkspace_fst, hfiles]
  simp only [bind_eq_ok_iff, mapError_eq_ok_iff, Except.ok.injEq, exists_eq_left',
    Indexing.index_eq_ok_iff, mapM_eq_ok_iff_of_comp hcontribution]
  constructor
  · rintro ⟨units, hunits, parsed, hparsed, rfl⟩
    exact ⟨parsed, ⟨units, hunits, hparsed⟩, rfl⟩
  · rintro ⟨parsed, ⟨units, hunits, hparsed⟩, rfl⟩
    exact ⟨units, hunits, parsed, hparsed, rfl⟩

/-- Files that fail may as well be empty. -/
theorem on_indexWorkspace_emptied (hencoding : Names s.readers.codecs settings.encoding codec)
    (hempty : codec.decode [] = .ok []) {places : List Place}
    (hfails : ∀ files,
      ((discover path settings.included settings.excluded settings.maxFiles).on s).1 = .ok files →
      ∀ p ∈ files, s.tree.leadsInto places p = true →
        Fails s.tree s.readers.codecs settings.encoding p) :
    ((indexWorkspace path settings).on { s with tree := s.tree.emptied places }).1 =
      ((indexWorkspace path settings).on s).1 := by
  rw [on_indexWorkspace_fst, on_indexWorkspace_fst,
    on_discover_of_sameShape (s.tree.sameShape_emptied places)]
  cases hfiles : ((discover path settings.included settings.excluded settings.maxFiles).on s).1 with
  | error fault => rfl
  | ok files =>
      have hparsed : (units (s.tree.emptied places) s.readers.codecs settings.encoding files).map
            (List.map (Indexing.parseUnit settings)) =
          (units s.tree s.readers.codecs settings.encoding files).map
            (List.map (Indexing.parseUnit settings)) := by
        rw [units, units, map_mapM, map_mapM]
        exact mapM_eq_of_forall fun p hp =>
          parse_unitOf_emptied hencoding hempty (hfails files hfiles p hp)
      show ((units (s.tree.emptied places) s.readers.codecs settings.encoding files).mapError
            Fault.reading >>=
          fun us => (Indexing.index settings us s.nextVersion).1.mapError .numeral) =
        ((units s.tree s.readers.codecs settings.encoding files).mapError Fault.reading >>=
          fun us => (Indexing.index settings us s.nextVersion).1.mapError .numeral)
      -- The units are not the same, since an empty text is not the same as none; what they are
      -- parsed to is.
      cases hthere : units s.tree s.readers.codecs settings.encoding files with
      | error e =>
          rw [hthere] at hparsed
          rw [map_eq_error_iff.mp hparsed]
      | ok us =>
          rw [hthere] at hparsed
          obtain ⟨us', hus', hsame⟩ := map_eq_ok_iff.mp hparsed
          rw [hus']
          exact congrArg (fun result => Except.mapError Fault.numeral result.1)
            (Indexing.index_congr hsame s.nextVersion)

/-- How the definitions are divided into units does not matter to the registry. -/
theorem exists_build_iff {parse : Except Fault (List (List Definition))} {depth : Int}
    {version next : Nat} {r : Registry} :
    (∃ parsed, parse = .ok parsed ∧ r = (Registry.build parsed version).resolve depth next) ↔
      ∃ ds, parse.map List.flatten = .ok ds ∧
        r = (Registry.build [ds] version).resolve depth next := by
  have hbuild (parsed : List (List Definition)) :
      Registry.build parsed version = Registry.build [parsed.flatten] version := by
    rw [Registry.build_eq, Registry.build_eq, List.flatten_singleton]
  constructor
  · rintro ⟨parsed, hparsed, rfl⟩
    exact ⟨parsed.flatten, by rw [hparsed]; rfl, by rw [hbuild parsed]⟩
  · rintro ⟨ds, hds, rfl⟩
    obtain ⟨parsed, hparsed, rfl⟩ := map_eq_ok_iff.mp hds
    exact ⟨parsed, hparsed, by rw [hbuild parsed]⟩

/--
**Files that cannot be read are as good as empty ones.**  In an encoding that is known, take some
places such that every discovered path which leads to one of them cannot be opened or has bytes
without meaning.  With the files at these places emptied, the index has the same outcome.  It is
made of what the other files contribute, each of them read and parsed alone, in the order of their
discovery; and there is an index exactly if each of the others can be read and parsed.
-/
theorem indexWorkspace_passes_over (hencoding : Names s.readers.codecs settings.encoding codec)
    (hempty : codec.decode [] = .ok []) {places : List Place}
    (hfails : ∀ files,
      ((discover path settings.included settings.excluded settings.maxFiles).on s).1 = .ok files →
      ∀ p ∈ files, s.tree.leadsInto places p = true →
        Fails s.tree s.readers.codecs settings.encoding p) :
    ((indexWorkspace path settings).on { s with tree := s.tree.emptied places }).1 =
        ((indexWorkspace path settings).on s).1 ∧
      ∀ files,
        ((discover path settings.included settings.excluded settings.maxFiles).on s).1 =
          .ok files →
        (∀ r, ((indexWorkspace path settings).on s).1 = .ok r ↔
          ∃ parsed, (files.filter fun p => !s.tree.leadsInto places p).mapM
              (contribution s.tree s.readers.codecs settings) = .ok parsed ∧
            r = (Registry.build parsed s.nextVersion).resolve settings.resolveDepth
              (s.nextVersion + 1)) ∧
        ((∃ r, ((indexWorkspace path settings).on s).1 = .ok r) ↔
          ∀ p ∈ files, s.tree.leadsInto places p = false →
            ∃ ds, contribution s.tree s.readers.codecs settings p = .ok ds) := by
  refine ⟨on_indexWorkspace_emptied hencoding hempty hfails, fun files hfiles => ?_⟩
  have hnothing : ∀ p ∈ files, (!s.tree.leadsInto places p) = false →
      contribution s.tree s.readers.codecs settings p = .ok [] := by
    intro p hp hleads
    exact contribution_of_fails hencoding (hfails files hfiles p hp (by simpa using hleads))
  have hindex : ∀ r, ((indexWorkspace path settings).on s).1 = .ok r ↔
      ∃ parsed, (files.filter fun p => !s.tree.leadsInto places p).mapM
          (contribution s.tree s.readers.codecs settings) = .ok parsed ∧
        r = (Registry.build parsed s.nextVersion).resolve settings.resolveDepth
          (s.nextVersion + 1) := by
    intro r
    rw [on_indexWorkspace_eq_ok_iff hfiles, exists_build_iff, exists_build_iff,
      flatten_mapM_filter hnothing]
  have hothers : (∃ parsed, (files.filter fun p => !s.tree.leadsInto places p).mapM
      (contribution s.tree s.readers.codecs settings) = .ok parsed) ↔
        ∀ p ∈ files, s.tree.leadsInto places p = false →
          ∃ ds, contribution s.tree s.readers.codecs settings p = .ok ds := by
    rw [mapM_isOk_iff]
    simp only [List.mem_filter, Bool.not_eq_true', and_imp, isOk_iff, ne_eq]
  refine ⟨hindex, ?_⟩
  rw [← hothers]
  constructor
  · rintro ⟨r, hr⟩
    obtain ⟨parsed, hparsed, -⟩ := (hindex r).mp hr
    exact ⟨parsed, hparsed⟩
  · rintro ⟨parsed, hparsed⟩
    exact ⟨_, (hindex _).mpr ⟨parsed, hparsed, rfl⟩⟩

/-- The stylesheets with something in the first two, where the third may refuse to be read. -/
def stylesheetsWith (first second : List UInt8) (refusal : Option FileProblem) : Session :=
  { stylesheets with
    tree := ⟨[(⟨[], []⟩, .directory), (⟨[], ["sub".toList]⟩, .directory),
      (⟨[], ["sub".toList, "b.css".toList]⟩, .file second (.tick 0)),
      (⟨[], ["sub".toList, "d.css".toList]⟩, .file [] (.tick 1) refusal),
      (⟨[], ["a.css".toList]⟩, .file first (.tick 2)),
      (⟨[], ["node_modules".toList]⟩, .directory),
      (⟨[], ["node_modules".toList, "c.css".toList]⟩, .file [] (.tick 3))]⟩ }

/-- Settings under which they are found, in some encoding. -/
def stylesheetSettings (encoding : String) : Settings where
  included := [.ofString "**/*.css", .ofString "*.css"]
  encoding := .ofString encoding

theorem discover_stylesheetsWith (first second : List UInt8) (refusal : Option FileProblem) :
    ((discover [] [.ofString "**/*.css", .ofString "*.css"]
      [.ofString "**/node_modules/**"] 100).on (stylesheetsWith first second refusal)).1 =
        .ok ownStylesheets := by
  have hshape : stylesheets.tree.SameShape (stylesheetsWith first second refusal).tree := rfl
  exact (on_discover_of_sameShape hshape ..).trans discover_stylesheets

/-- A stylesheet that is no UTF-8, one with a definition, and one that may not be read. -/
def halfReadable : Session := stylesheetsWith [0xff] [45, 45, 98, 58, 49, 59] (some .denied)

/-- The first and the last of them. -/
def unreadableStylesheets : List Place :=
  [⟨[], ["a.css".toList]⟩, ⟨[], ["sub".toList, "d.css".toList]⟩]

/-- The first of them cannot be decoded and the last cannot be opened.  Both are passed over, and
there is an index. -/
theorem indexWorkspace_passes_over_sample :
    readFound halfReadable.tree halfReadable.readers.codecs (stylesheetSettings "utf-8").encoding
        ⟨[], ["a.css".toList]⟩ =
          .error (.text (.undecodable ⟨"utf-8", 0, [0xff], "invalid start byte"⟩)) ∧
      readFound halfReadable.tree halfReadable.readers.codecs (stylesheetSettings "utf-8").encoding
        ⟨[], ["sub".toList, "d.css".toList]⟩ =
          .error (.file ⟨.denied, "/sub/d.css".toList⟩) ∧
      ((indexWorkspace [] (stylesheetSettings "utf-8")).on
        { halfReadable with tree := halfReadable.tree.emptied unreadableStylesheets }).1 =
      ((indexWorkspace [] (stylesheetSettings "utf-8")).on halfReadable).1 ∧
      ∃ r, ((indexWorkspace [] (stylesheetSettings "utf-8")).on halfReadable).1 = .ok r := by
  have hencoding : Names halfReadable.readers.codecs (stylesheetSettings "utf-8").encoding
      ⟨Encoding.decode .utf8⟩ :=
    ⟨"utf-8".toList, by decide +kernel, by decide, rfl⟩
  have hfound := discover_stylesheetsWith [0xff] [45, 45, 98, 58, 49, 59] (some .denied)
  have hfirst : readFound halfReadable.tree halfReadable.readers.codecs
      (stylesheetSettings "utf-8").encoding ⟨[], ["a.css".toList]⟩ =
        .error (.text (.undecodable ⟨"utf-8", 0, [0xff], "invalid start byte"⟩)) := by
    decide +kernel
  have hlast : readFound halfReadable.tree halfReadable.readers.codecs
      (stylesheetSettings "utf-8").encoding ⟨[], ["sub".toList, "d.css".toList]⟩ =
        .error (.file ⟨.denied, "/sub/d.css".toList⟩) := by
    decide +kernel
  have hsecond : halfReadable.tree.leadsInto unreadableStylesheets
      ⟨[], ["sub".toList, "b.css".toList]⟩ = false := by
    decide +kernel
  have hfails : ∀ p ∈ ownStylesheets, halfReadable.tree.leadsInto unreadableStylesheets p = true →
      Fails halfReadable.tree halfReadable.readers.codecs (stylesheetSettings "utf-8").encoding
        p := by
    simp only [ownStylesheets, List.forall_mem_cons]
    exact ⟨fun _ => ⟨by decide, _, hfirst, by simp⟩, fun h => absurd h (by rw [hsecond]; decide),
      fun _ => ⟨by decide, _, hlast, by simp⟩, by simp⟩
  obtain ⟨hsame, hindex⟩ := indexWorkspace_passes_over hencoding rfl fun files hfiles =>
    Except.ok.inj (hfound.symm.trans hfiles) ▸ hfails
  have hunit : unitOf halfReadable.tree halfReadable.readers.codecs
      (stylesheetSettings "utf-8").encoding ⟨[], ["sub".toList, "b.css".toList]⟩ =
        .ok ⟨"/sub/b.css".toList, some "--b:1;".toList⟩ := by
    decide +kernel
  have hparse : parse "--b:1;".toList (some "/sub/b.css".toList)
      (stylesheetSettings "utf-8").limits =
        .ok [⟨"--b".toList, "1".toList, none, some "/sub/b.css".toList⟩] := by
    rw [Declaration.parse_eq]
    rfl
  refine ⟨hfirst, hlast, hsame, (hindex ownStylesheets hfound).2.mpr ?_⟩
  simp only [ownStylesheets, List.forall_mem_cons]
  refine ⟨fun h => absurd h (by decide +kernel), fun _ => ?_,
    fun h => absurd h (by decide +kernel), by simp⟩
  exact ⟨_, bind_eq_ok_iff.mpr ⟨_, mapError_eq_ok_iff.mpr hunit, mapError_eq_ok_iff.mpr hparse⟩⟩

/-- A file without a byte order mark ends an index that goes by such marks. -/
theorem indexWorkspace_fails_without_mark :
    Names (stylesheetsWith [0x61, 0x00] [] none).readers.codecs
        (stylesheetSettings "utf-16").encoding ⟨Encoding.decode .utf16⟩ ∧
      ((indexWorkspace [] (stylesheetSettings "utf-16")).on
          (stylesheetsWith [0x61, 0x00] [] none)).1 =
        .error (.reading (.text (.refused "UTF-16 stream does not start with BOM"))) := by
  refine ⟨⟨"utf-16".toList, by decide +kernel, by decide, rfl⟩, ?_⟩
  have hunits : units (stylesheetsWith [0x61, 0x00] [] none).tree
      (stylesheetsWith [0x61, 0x00] [] none).readers.codecs
      (stylesheetSettings "utf-16").encoding ownStylesheets =
        .error (.text (.refused "UTF-16 stream does not start with BOM")) := by
    decide +kernel
  have hfound : ((discover [] (stylesheetSettings "utf-16").included
      (stylesheetSettings "utf-16").excluded (stylesheetSettings "utf-16").maxFiles).on
        (stylesheetsWith [0x61, 0x00] [] none)).1 = .ok ownStylesheets :=
    discover_stylesheetsWith _ _ _
  rw [on_indexWorkspace_fst, hfound]
  simp only [bind, Except.bind, hunits, Except.mapError]

end Session

end SwatchIndex
