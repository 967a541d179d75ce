import EventTracking.CommandLine.Arguments
import Mathlib

/-!
# Requests on the command line

A command line is a list of requests, each written in one argument or in two: for an output
directory, for a runtime library, for a detailed log, or for a source directory. The requests of a
command line are found from left to right. An argument that an option takes as its value is never
looked at, so it may begin with a hyphen; any other argument that does is an option.

What a command line means depends on its requests alone. There has to be exactly one source
directory. Of several output directories or runtime libraries the last one counts, so the order of
the requests matters only if one of these is asked for twice.

Main statements: what is read is what follows from the requests (`readGenerate_iff_follows`,
`readDiscover_iff`), whatever is read splits into requests (`exists_splits_of_readGenerate`,
`exists_splits_of_readDiscover`), and a command line is understood exactly if its requests make a
command, whichever way they are written (`parse_iff_requests_make`).
-/

namespace EventTracking.CommandLine

/-! ## Requests -/

/-- What an item of a command line asks for. -/
inductive Request where
  /-- An output directory. -/
  | output (directory : String)
  /-- A runtime library. -/
  | runtime (library : String)
  /-- A detailed log. -/
  | verbose
  /-- A source directory. -/
  | source (directory : String)
deriving DecidableEq

namespace Request

/-- The arguments by which a request is written. -/
inductive IsWritten : Request → List String → Prop where
  | outputJoined (value : String) : IsWritten (.output value) ["--out=" ++ value]
  | outputLong (value : String) : IsWritten (.output value) ["--out", value]
  | outputShort (value : String) : IsWritten (.output value) ["-o", value]
  | runtimeJoined (value : String) : IsWritten (.runtime value) ["--runtime=" ++ value]
  | runtimeLong (value : String) : IsWritten (.runtime value) ["--runtime", value]
  | verboseLong : IsWritten .verbose ["--verbose"]
  | verboseShort : IsWritten .verbose ["-v"]
  /-- A source directory does not begin with a hyphen. -/
  | source {value : String} (h : value.toList.head? ≠ some '-') :
      IsWritten (.source value) [value]

/-- The output directory that is asked for. -/
def output? : Request → Option String
  | output directory => some directory
  | _ => none

/-- The runtime library that is asked for. -/
def runtime? : Request → Option String
  | runtime library => some library
  | _ => none

/-- The source directory that is asked for. -/
def source? : Request → Option String
  | source directory => some directory
  | _ => none

end Request

/-- The arguments of a command line split into requests from left to right. -/
inductive Splits : List String → List Request → Prop where
  | nil : Splits [] []
  | cons {request : Request} {front rest : List String} {requests : List Request}
      (h : request.IsWritten front) (hrest : Splits rest requests) :
      Splits (front ++ rest) (request :: requests)

section

variable (requests : List Request)

/-- The output directories that are asked for, in order. -/
def outputs : List String := requests.filterMap Request.output?

/-- The runtime libraries that are asked for, in order. -/
def runtimes : List String := requests.filterMap Request.runtime?

/-- The source directories that are asked for, in order. -/
def sources : List String := requests.filterMap Request.source?

/-- Whether a detailed log is asked for. -/
def asksLog : Bool := requests.contains .verbose

end

/-- The command for generating that requests make: with the only source directory and the last
output directory, which have to be there, and the last runtime library. -/
def MakesGenerate (requests : List Request) (command : Command) : Prop :=
  ∃ source output, sources requests = [source] ∧ (outputs requests).getLast? = some output ∧
    command = .generate source output (runtimes requests).getLast? (asksLog requests)

/-- The command for listing groups that requests make, none of which may be for generating. -/
def MakesDiscover (requests : List Request) (command : Command) : Prop :=
  ∃ source, sources requests = [source] ∧ outputs requests = [] ∧ runtimes requests = [] ∧
    command = .discover source (asksLog requests)

/-! ## Single arguments -/

/-- A text begins with another one if it is this one with something behind it. -/
theorem withoutStart?_eq_some_iff {start text value : String} :
    withoutStart? start text = some value ↔ text = start ++ value := by
  unfold withoutStart?
  constructor
  · intro h
    split at h
    · rename_i hbegins
      obtain ⟨rest, hrest⟩ := List.isPrefixOf_iff_prefix.1 hbegins
      rw [← hrest, List.drop_left] at h
      obtain rfl := Option.some.inj h
      apply String.toList_injective
      rw [String.toList_append, String.toList_ofList, hrest]
    · cases h
  · rintro rfl
    have hbegins : start.toList.isPrefixOf (start ++ value).toList = true := by
      rw [String.toList_append]
      exact List.isPrefixOf_iff_prefix.2 (List.prefix_append _ _)
    rw [if_pos hbegins, String.toList_append, List.drop_left, String.ofList_toList]

/-- A text does not begin with another one that begins otherwise. -/
theorem withoutStart?_eq_none {start text : String} (hne : start.toList ≠ [])
    (h : text.toList.head? ≠ start.toList.head?) : withoutStart? start text = none := by
  rw [Option.eq_none_iff_forall_ne_some]
  intro value hvalue
  apply h
  rw [withoutStart?_eq_some_iff.1 hvalue, String.toList_append, List.head?_append_of_ne_nil _ hne]

/-- An argument that does not begin with a hyphen is no option. -/
theorem not_option_of_head? {argument : String} (h : argument.toList.head? ≠ some '-') :
    withoutStart? "--out=" argument = none ∧ withoutStart? "--runtime=" argument = none ∧
      takesOutput argument = false ∧ argument ≠ "--runtime" ∧ isVerbose argument = false := by
  have hne (option : String) (hoption : option.toList.head? = some '-') : argument ≠ option := by
    rintro rfl
    exact h hoption
  refine ⟨withoutStart?_eq_none (by decide) h, withoutStart?_eq_none (by decide) h, ?_,
    hne "--runtime" (by decide), ?_⟩
  · simp [takesOutput, hne "--out" (by decide), hne "-o" (by decide)]
  · simp [isVerbose, hne "--verbose" (by decide), hne "-v" (by decide)]

/-- The source directory is taken from an argument exactly if the argument does not begin with a
hyphen and there is none so far. -/
theorem placeSource_eq_ok_iff {command argument source : String} {before : Option String} :
    placeSource command argument before = .ok source ↔
      argument.toList.head? ≠ some '-' ∧ before = none ∧ source = argument := by
  unfold placeSource
  by_cases hhyphen : argument.toList.head? = some '-'
  · simp [hhyphen]
  · cases before <;> simp [hhyphen, eq_comm]

/-! ## Reading requests for generating -/

/-- What has been read once a request has been read as well. A second source directory is one too
many. -/
def GenerateArguments.take (read : GenerateArguments) :
    Request → Except UsageError GenerateArguments
  | .output directory => .ok { read with output := some directory }
  | .runtime library => .ok { read with runtime := some library }
  | .verbose => .ok { read with verbose := true }
  | .source directory =>
    match read.source with
    | some _ => .error (.unexpectedArgument directory)
    | none => .ok { read with source := some directory }

/-- A request is taken, however it is written, and then what is behind it is read. -/
theorem readGenerate_append {request : Request} {front : List String}
    (h : request.IsWritten front) (read : GenerateArguments) (rest : List String) :
    readGenerate read (front ++ rest) =
      (read.take request).bind fun next => readGenerate next rest := by
  cases h with
  | outputJoined value =>
      have hvalue : withoutStart? "--out=" ("--out=" ++ value) = some value :=
        withoutStart?_eq_some_iff.2 rfl
      rw [List.singleton_append, readGenerate.eq_def]
      dsimp only
      rw [hvalue]
      rfl
  | runtimeJoined value =>
      -- the other option is looked for first
      have hnone : withoutStart? "--out=" ("--runtime=" ++ value) = none := by
        rw [withoutStart?, String.toList_append]
        rfl
      have hvalue : withoutStart? "--runtime=" ("--runtime=" ++ value) = some value :=
        withoutStart?_eq_some_iff.2 rfl
      rw [List.singleton_append, readGenerate.eq_def]
      dsimp only
      rw [hnone, hvalue]
      rfl
  | outputLong value => rfl
  | outputShort value => rfl
  | runtimeLong value => rfl
  | verboseLong =>
      rw [List.singleton_append, readGenerate.eq_def]
      rfl
  | verboseShort =>
      rw [List.singleton_append, readGenerate.eq_def]
      rfl
  | source hhyphen =>
      obtain ⟨hout, hruntime, htakes, hlong, hverbose⟩ := not_option_of_head? hhyphen
      rw [List.singleton_append, readGenerate.eq_def]
      simp only [hout, hruntime, htakes, hlong, hverbose, placeSource, hhyphen,
        GenerateArguments.take, Bool.false_eq_true, if_false]
      cases read.source <;> rfl

/-- What has been read follows from what had been read before by some requests. -/
structure GenerateArguments.Follows (read : GenerateArguments) (requests : List Request)
    (result : GenerateArguments) : Prop where
  /-- There is one source directory at most. -/
  source : result.source.toList = read.source.toList ++ sources requests
  /-- The last output directory counts. -/
  output : result.output = (outputs requests).getLast?.or read.output
  /-- The last runtime library counts. -/
  runtime : result.runtime = (runtimes requests).getLast?.or read.runtime
  /-- A detailed log may be asked for anywhere. -/
  verbose : result.verbose = (read.verbose || asksLog requests)

/-- What follows only depends on what has been read and asked for altogether. -/
theorem GenerateArguments.follows_congr {read next result : GenerateArguments}
    {requests others : List Request}
    (hsource : read.source.toList ++ sources requests = next.source.toList ++ sources others)
    (houtput : (outputs requests).getLast?.or read.output =
      (outputs others).getLast?.or next.output)
    (hruntime : (runtimes requests).getLast?.or read.runtime =
      (runtimes others).getLast?.or next.runtime)
    (hverbose : (read.verbose || asksLog requests) = (next.verbose || asksLog others)) :
    read.Follows requests result ↔ next.Follows others result := by
  constructor
  · intro h
    exact ⟨h.source.trans hsource, h.output.trans houtput, h.runtime.trans hruntime,
      h.verbose.trans hverbose⟩
  · intro h
    exact ⟨h.source.trans hsource.symm, h.output.trans houtput.symm, h.runtime.trans hruntime.symm,
      h.verbose.trans hverbose.symm⟩

/-- The last of several values is that of the others, or else the first one. -/
theorem getLast?_cons_or (first : String) (rest : List String) (before : Option String) :
    (first :: rest).getLast?.or before = rest.getLast?.or (some first) := by
  rw [List.getLast?_cons]
  cases rest.getLast? <;> rfl

/-- What follows from no requests is what had been read. -/
theorem GenerateArguments.follows_nil_iff {read result : GenerateArguments} :
    read.Follows [] result ↔ result = read := by
  constructor
  · rintro ⟨hsource, houtput, hruntime, hverbose⟩
    have hsame : result.source = read.source := by
      rw [sources, List.filterMap_nil, List.append_nil] at hsource
      cases hbefore : read.source <;> cases hafter : result.source <;> simp_all
    obtain ⟨source, output, runtime, verbose⟩ := read
    obtain ⟨source', output', runtime', verbose'⟩ := result
    simp_all [outputs, runtimes, asksLog]
  · rintro rfl
    constructor <;> simp [sources, outputs, runtimes, asksLog]

/-- What follows from several requests follows from the later ones once the first is taken. -/
theorem GenerateArguments.follows_cons_iff {read result : GenerateArguments} {request : Request}
    {requests : List Request} :
    read.Follows (request :: requests) result ↔
      ∃ next, read.take request = .ok next ∧ next.Follows requests result := by
  have htaken {next : GenerateArguments} (htake : read.take request = .ok next)
      (hfollows : read.Follows (request :: requests) result ↔ next.Follows requests result) :
      read.Follows (request :: requests) result ↔
        ∃ next, read.take request = .ok next ∧ next.Follows requests result := by
    rw [hfollows, htake]
    constructor
    · intro h
      exact ⟨next, rfl, h⟩
    · rintro ⟨_, ⟨⟩, h⟩
      exact h
  cases request with
  | output directory =>
      exact htaken rfl (follows_congr rfl (getLast?_cons_or _ _ _) rfl rfl)
  | runtime library =>
      exact htaken rfl (follows_congr rfl rfl (getLast?_cons_or _ _ _) rfl)
  | verbose =>
      exact htaken rfl (follows_congr rfl rfl rfl (by simp [asksLog]))
  | source directory =>
      have hsources : sources (.source directory :: requests) = directory :: sources requests := rfl
      cases hread : read.source with
      | none =>
          have htake : read.take (.source directory) =
              .ok { read with source := some directory } := by
            rw [take, hread]
          refine htaken htake (follows_congr ?_ rfl rfl rfl)
          rw [hread, hsources]
          rfl
      | some before =>
          have htake : read.take (.source directory) = .error (.unexpectedArgument directory) := by
            rw [take, hread]
          constructor
          · -- two source directories are one too many
            rintro ⟨hsource, -, -, -⟩
            rw [hread, hsources] at hsource
            cases hresult : result.source <;> simp [hresult] at hsource
          · rintro ⟨next, hnext, -⟩
            cases htake.symm.trans hnext

/-- What is read from arguments is what follows from their requests. -/
theorem readGenerate_iff_follows {arguments : List String} {requests : List Request}
    (h : Splits arguments requests) {read result : GenerateArguments} :
    readGenerate read arguments = .ok result ↔ read.Follows requests result := by
  induction h generalizing read with
  | nil =>
      rw [GenerateArguments.follows_nil_iff, readGenerate, Except.ok.injEq, eq_comm]
  | cons hwritten hrest ih =>
      rw [readGenerate_append hwritten, GenerateArguments.follows_cons_iff]
      cases htake : read.take _ with
      | error error =>
          constructor
          · intro hread
            cases hread
          · rintro ⟨next, hnext, -⟩
            cases hnext
      | ok next =>
          constructor
          · intro hread
            exact ⟨next, rfl, ih.1 hread⟩
          · rintro ⟨other, ⟨⟩, hfollows⟩
            exact ih.2 hfollows

/-- Arguments that can be read split into requests. -/
theorem exists_splits_of_readGenerate {read result : GenerateArguments} {arguments : List String}
    (h : readGenerate read arguments = .ok result) :
    ∃ requests, Splits arguments requests := by
  -- a case for each way in which the reader goes on; the ways in which it stops contradict `h`
  induction read, arguments using readGenerate.induct with
  | case1 read => exact ⟨[], .nil⟩
  | case2 read argument others value hvalue ih =>
      rw [readGenerate.eq_def] at h
      simp only [hvalue] at h
      obtain ⟨requests, hsplits⟩ := ih h
      rw [withoutStart?_eq_some_iff.1 hvalue]
      exact ⟨_, .cons (.outputJoined value) hsplits⟩
  | case3 read argument others value hvalue hnone ih =>
      rw [readGenerate.eq_def] at h
      simp only [hvalue, hnone] at h
      obtain ⟨requests, hsplits⟩ := ih h
      rw [withoutStart?_eq_some_iff.1 hvalue]
      exact ⟨_, .cons (.runtimeJoined value) hsplits⟩
  | case4 read argument hruntime hout htakes =>
      rw [readGenerate.eq_def] at h
      simp [hruntime, hout, htakes] at h
  | case5 read argument hruntime hout htakes value others ih =>
      rw [readGenerate.eq_def] at h
      simp only [hruntime, hout, htakes, if_true] at h
      obtain ⟨requests, hsplits⟩ := ih h
      rw [takesOutput, Bool.or_eq_true, decide_eq_true_eq, decide_eq_true_eq] at htakes
      rcases htakes with rfl | rfl
      · exact ⟨_, .cons (.outputLong value) hsplits⟩
      · exact ⟨_, .cons (.outputShort value) hsplits⟩
  | case6 read hruntime hout htakes =>
      rw [readGenerate.eq_def] at h
      simp [hruntime, hout, htakes] at h
  | case7 read value others hruntime hout htakes ih =>
      rw [readGenerate.eq_def] at h
      simp only [hruntime, hout, htakes, if_true] at h
      obtain ⟨requests, hsplits⟩ := ih h
      exact ⟨_, .cons (.runtimeLong value) hsplits⟩
  | case8 read argument others hruntime hout htakes hlong hverbose ih =>
      rw [readGenerate.eq_def] at h
      simp only [hruntime, hout, htakes, hlong, hverbose, if_true, if_false] at h
      obtain ⟨requests, hsplits⟩ := ih h
      rw [isVerbose, Bool.or_eq_true, decide_eq_true_eq, decide_eq_true_eq] at hverbose
      rcases hverbose with rfl | rfl
      · exact ⟨_, .cons .verboseLong hsplits⟩
      · exact ⟨_, .cons .verboseShort hsplits⟩
  | case9 read argument others hruntime hout htakes hlong hverbose error hsource =>
      rw [readGenerate.eq_def] at h
      simp [hruntime, hout, htakes, hlong, hverbose, hsource] at h
  | case10 read argument others hruntime hout htakes hlong hverbose source hsource ih =>
      rw [readGenerate.eq_def] at h
      simp only [hruntime, hout, htakes, hlong, hverbose, hsource, if_false] at h
      obtain ⟨requests, hsplits⟩ := ih h
      obtain ⟨hhyphen, -, -⟩ := placeSource_eq_ok_iff.1 hsource
      exact ⟨_, .cons (.source hhyphen) hsplits⟩

/-- The command for generating is made of what has been read. -/
theorem parseGenerate_eq_ok_iff {arguments : List String} {command : Command} :
    parseGenerate arguments = .ok command ↔
      ∃ read source output, readGenerate ⟨none, none, none, false⟩ arguments = .ok read ∧
        read.source = some source ∧ read.output = some output ∧
        command = .generate source output read.runtime read.verbose := by
  rw [parseGenerate]
  cases hread : readGenerate ⟨none, none, none, false⟩ arguments with
  | error error => simp [bind, Except.bind]
  | ok read =>
      obtain ⟨source, output, runtime, verbose⟩ := read
      cases source <;> cases output <;>
        simp [bind, Except.bind, pure, Except.pure, required, eq_comm]

/-- Arguments make the command for generating that their requests make. -/
theorem parseGenerate_iff_makes {arguments : List String} {requests : List Request}
    (h : Splits arguments requests) {command : Command} :
    parseGenerate arguments = .ok command ↔ MakesGenerate requests command := by
  rw [parseGenerate_eq_ok_iff]
  constructor
  · rintro ⟨read, source, output, hread, hsource, houtput, rfl⟩
    obtain ⟨hsources, houtputs, hruntimes, hverbose⟩ := (readGenerate_iff_follows h).1 hread
    refine ⟨source, output, ?_, ?_, ?_⟩
    · simpa [hsource] using hsources.symm
    · simpa [houtput] using houtputs.symm
    · simp [hruntimes, hverbose]
  · rintro ⟨source, output, hsources, houtputs, rfl⟩
    refine ⟨⟨some source, some output, (runtimes requests).getLast?, asksLog requests⟩, source,
      output, (readGenerate_iff_follows h).2 ?_, rfl, rfl, rfl⟩
    constructor <;> simp [hsources, houtputs]

/-! ## Reading requests for listing -/

/-- A text that begins with an option other than those for a detailed log is none of these. -/
theorem not_isVerbose_of_start {start : String} (hlong : withoutStart? start "--verbose" = none)
    (hshort : withoutStart? start "-v" = none) (value : String) :
    isVerbose (start ++ value) = false := by
  have hne {option : String} (hoption : withoutStart? start option = none) :
      start ++ value ≠ option := by
    intro heq
    rw [withoutStart?_eq_some_iff.2 heq.symm] at hoption
    cases hoption
  simp [isVerbose, hne hlong, hne hshort]

/-- A request that is only for generating begins with an option that is unknown when listing. -/
theorem Request.IsWritten.exists_unknown {request : Request} {front : List String}
    (h : request.IsWritten front) (hfor : request.output? ≠ none ∨ request.runtime? ≠ none) :
    ∃ argument others, front = argument :: others ∧ argument.toList.head? = some '-' ∧
      isVerbose argument = false := by
  cases h with
  | outputJoined value =>
      refine ⟨_, [], rfl, ?_, not_isVerbose_of_start (by decide) (by decide) value⟩
      rw [String.toList_append]
      rfl
  | runtimeJoined value =>
      refine ⟨_, [], rfl, ?_, not_isVerbose_of_start (by decide) (by decide) value⟩
      rw [String.toList_append]
      rfl
  | outputLong value => exact ⟨_, [value], rfl, by decide, by decide⟩
  | outputShort value => exact ⟨_, [value], rfl, by decide, by decide⟩
  | runtimeLong value => exact ⟨_, [value], rfl, by decide, by decide⟩
  | verboseLong => simp [Request.output?, Request.runtime?] at hfor
  | verboseShort => simp [Request.output?, Request.runtime?] at hfor
  | source hhyphen => simp [Request.output?, Request.runtime?] at hfor

/-- Nothing is read when listing if there is a request that is only for generating. -/
theorem readDiscover_append_of_unknown {request : Request} {front : List String}
    (h : request.IsWritten front) (hfor : request.output? ≠ none ∨ request.runtime? ≠ none)
    (source : Option String) (verbose : Bool) (rest : List String) (result : Option String × Bool) :
    readDiscover source verbose (front ++ rest) ≠ .ok result := by
  obtain ⟨argument, others, rfl, hhyphen, hverbose⟩ := h.exists_unknown hfor
  rw [List.cons_append, readDiscover.eq_def]
  simp [hverbose, placeSource_of_hyphen hhyphen]

/-- A request for a detailed log is read, however it is written. -/
theorem readDiscover_append_verbose {front : List String} (h : Request.verbose.IsWritten front)
    (source : Option String) (verbose : Bool) (rest : List String) :
    readDiscover source verbose (front ++ rest) = readDiscover source true rest := by
  cases h with
  | verboseLong => rfl
  | verboseShort => rfl

/-- What is read from arguments when listing is what follows from their requests, and none of these
is only for generating. -/
theorem readDiscover_iff {arguments : List String} {requests : List Request}
    (h : Splits arguments requests) {source found : Option String} {verbose detailed : Bool} :
    readDiscover source verbose arguments = .ok (found, detailed) ↔
      outputs requests = [] ∧ runtimes requests = [] ∧
        found.toList = source.toList ++ sources requests ∧
        detailed = (verbose || asksLog requests) := by
  induction h generalizing source verbose with
  | nil =>
      cases source <;> cases found <;>
        simp [readDiscover, outputs, runtimes, sources, asksLog, eq_comm]
  | @cons request front rest requests hwritten hrest ih =>
      cases request with
      | output directory =>
          constructor
          · intro hread
            exact (readDiscover_append_of_unknown hwritten (.inl nofun) _ _ _ _ hread).elim
          · rintro ⟨houtputs, -⟩
            cases houtputs
      | runtime library =>
          constructor
          · intro hread
            exact (readDiscover_append_of_unknown hwritten (.inr nofun) _ _ _ _ hread).elim
          · rintro ⟨-, hruntimes, -⟩
            cases hruntimes
      | verbose =>
          have hasks : asksLog (.verbose :: requests) = true := by simp [asksLog]
          rw [readDiscover_append_verbose hwritten, ih, hasks, Bool.true_or, Bool.or_true]
          rfl
      | source directory =>
          cases hwritten with
          | source hhyphen =>
              obtain ⟨-, -, -, -, hverbose⟩ := not_option_of_head? hhyphen
              rw [List.singleton_append, readDiscover.eq_def]
              simp only [hverbose, placeSource, hhyphen, Bool.false_eq_true, if_false]
              cases source with
              | none => exact ih
              | some before =>
                  -- two source directories are one too many
                  have hsources : sources (.source directory :: requests) =
                      directory :: sources requests := rfl
                  constructor
                  · intro hread
                    cases hread
                  · rintro ⟨-, -, hfound, -⟩
                    rw [hsources] at hfound
                    cases found <;> simp at hfound

/-- Arguments that can be read when listing split into requests. -/
theorem exists_splits_of_readDiscover {source : Option String} {verbose : Bool}
    {result : Option String × Bool} {arguments : List String}
    (h : readDiscover source verbose arguments = .ok result) :
    ∃ requests, Splits arguments requests := by
  induction arguments generalizing source verbose with
  | nil => exact ⟨[], .nil⟩
  | cons argument rest ih =>
      rw [readDiscover.eq_def] at h
      dsimp only at h
      split at h
      · rename_i hverbose
        obtain ⟨requests, hsplits⟩ := ih h
        rw [isVerbose, Bool.or_eq_true, decide_eq_true_eq, decide_eq_true_eq] at hverbose
        rcases hverbose with rfl | rfl
        · exact ⟨_, .cons .verboseLong hsplits⟩
        · exact ⟨_, .cons .verboseShort hsplits⟩
      · split at h
        · cases h
        · rename_i hsource
          obtain ⟨requests, hsplits⟩ := ih h
          obtain ⟨hhyphen, -, -⟩ := placeSource_eq_ok_iff.1 hsource
          exact ⟨_, .cons (.source hhyphen) hsplits⟩

/-- The command for listing is made of what has been read. -/
theorem parseDiscover_eq_ok_iff {arguments : List String} {command : Command} :
    parseDiscover arguments = .ok command ↔
      ∃ source verbose, readDiscover none false arguments = .ok (some source, verbose) ∧
        command = .discover source verbose := by
  rw [parseDiscover]
  cases hread : readDiscover none false arguments with
  | error error => simp [bind, Except.bind]
  | ok read =>
      obtain ⟨source, verbose⟩ := read
      cases source with
      | none => simp [bind, Except.bind, required]
      | some source =>
          simp only [bind, Except.bind, pure, Except.pure, required, Except.ok.injEq,
            Prod.mk.injEq, Option.some.injEq]
          constructor
          · rintro rfl
            exact ⟨source, verbose, ⟨rfl, rfl⟩, rfl⟩
          · rintro ⟨_, _, ⟨rfl, rfl⟩, rfl⟩
            rfl

/-- Arguments make the command for listing that their requests make. -/
theorem parseDiscover_iff_makes {arguments : List String} {requests : List Request}
    (h : Splits arguments requests) {command : Command} :
    parseDiscover arguments = .ok command ↔ MakesDiscover requests command := by
  rw [parseDiscover_eq_ok_iff]
  constructor
  · rintro ⟨source, verbose, hread, rfl⟩
    obtain ⟨houtputs, hruntimes, hsources, hverbose⟩ := (readDiscover_iff h).1 hread
    refine ⟨source, ?_, houtputs, hruntimes, ?_⟩
    · simpa using hsources.symm
    · simp [hverbose]
  · rintro ⟨source, hsources, houtputs, hruntimes, rfl⟩
    refine ⟨source, asksLog requests, (readDiscover_iff h).2 ⟨houtputs, hruntimes, ?_, ?_⟩, rfl⟩
    · simp [hsources]
    · simp

/-! ## The order of requests -/

/-- Lists of one entry at most are equal if they have the same entries. -/
theorem eq_of_perm_of_length_le_one {first second : List String} (h : first.Perm second)
    (hlength : second.length ≤ 1) : first = second := by
  match second with
  | [] => exact h.eq_nil
  | [value] => exact h.eq_singleton
  | _ :: _ :: _ => simp at hlength

/-- Requests in another order are for the same single source directory. -/
theorem sources_eq_singleton_iff_of_perm {requests reordered : List Request}
    (h : reordered.Perm requests) (source : String) :
    sources reordered = [source] ↔ sources requests = [source] := by
  have hperm : (sources reordered).Perm (sources requests) := h.filterMap _
  constructor
  · intro heq
    exact (heq ▸ hperm).symm.eq_singleton
  · intro heq
    exact (heq ▸ hperm).eq_singleton

/-- Requests in another order make the same command for generating, unless an output directory or a
runtime library is asked for twice. -/
theorem makesGenerate_iff_of_perm {requests reordered : List Request}
    (h : reordered.Perm requests) (houtputs : (outputs requests).length ≤ 1)
    (hruntimes : (runtimes requests).length ≤ 1) {command : Command} :
    MakesGenerate reordered command ↔ MakesGenerate requests command := by
  have houtput : outputs reordered = outputs requests :=
    eq_of_perm_of_length_le_one (h.filterMap _) houtputs
  have hruntime : runtimes reordered = runtimes requests :=
    eq_of_perm_of_length_le_one (h.filterMap _) hruntimes
  have hverbose : asksLog reordered = asksLog requests := h.contains_eq
  simp only [MakesGenerate, houtput, hruntime, sources_eq_singleton_iff_of_perm h, hverbose]

/-- Requests in another order make the same command for listing. -/
theorem makesDiscover_iff_of_perm {requests reordered : List Request}
    (h : reordered.Perm requests) {command : Command} :
    MakesDiscover reordered command ↔ MakesDiscover requests command := by
  have hnil {values others : List String} (hperm : values.Perm others) :
      values = [] ↔ others = [] := by
    constructor
    · rintro rfl
      exact hperm.nil_eq.symm
    · rintro rfl
      exact hperm.eq_nil
  have houtput : outputs reordered = [] ↔ outputs requests = [] := hnil (h.filterMap _)
  have hruntime : runtimes reordered = [] ↔ runtimes requests = [] := hnil (h.filterMap _)
  have hverbose : asksLog reordered = asksLog requests := h.contains_eq
  simp only [MakesDiscover, houtput, hruntime, sources_eq_singleton_iff_of_perm h, hverbose]

/-! ## Command lines -/

/-- Both words for generating do the same. -/
theorem parse_generate {word : String} (h : word ∈ ["generate", "gen"]) (arguments : List String) :
    parse (word :: arguments) = parseGenerate arguments := by
  rw [List.mem_cons, List.mem_singleton] at h
  rcases h with rfl | rfl <;> rfl

/-- The word for listing has its own arguments. -/
theorem parse_discover (arguments : List String) :
    parse ("discover" :: arguments) = parseDiscover arguments := rfl

/-- A command line for generating is understood exactly if its arguments split into requests that
make a command, and so is one for listing. The command stays the same when requests are written in
another way, and when they are put in another order, unless an output directory or a runtime library
is asked for twice. -/
theorem parse_iff_requests_make (arguments : List String) :
    (∀ word ∈ ["generate", "gen"], ∀ command,
      parse (word :: arguments) = .ok command ↔
        ∃ requests, Splits arguments requests ∧ MakesGenerate requests command) ∧
    (∀ command, parse ("discover" :: arguments) = .ok command ↔
      ∃ requests, Splits arguments requests ∧ MakesDiscover requests command) ∧
    (∀ requests reordered others, Splits arguments requests → Splits others reordered →
      (reordered = requests ∨ reordered.Perm requests ∧ (outputs requests).length ≤ 1 ∧
        (runtimes requests).length ≤ 1) →
      ∀ word ∈ ["generate", "gen"], ∀ other ∈ ["generate", "gen"], ∀ command,
        parse (other :: others) = .ok command ↔ parse (word :: arguments) = .ok command) ∧
    (∀ requests reordered others, Splits arguments requests → Splits others reordered →
      reordered.Perm requests →
      ∀ command, parse ("discover" :: others) = .ok command ↔
        parse ("discover" :: arguments) = .ok command) := by
  refine ⟨?_, ?_, ?_, ?_⟩
  · intro word hword command
    rw [parse_generate hword]
    constructor
    · intro hparse
      obtain ⟨read, _, _, hread, -⟩ := parseGenerate_eq_ok_iff.1 hparse
      obtain ⟨requests, hsplits⟩ := exists_splits_of_readGenerate hread
      exact ⟨requests, hsplits, (parseGenerate_iff_makes hsplits).1 hparse⟩
    · rintro ⟨requests, hsplits, hmakes⟩
      exact (parseGenerate_iff_makes hsplits).2 hmakes
  · intro command
    rw [parse_discover]
    constructor
    · intro hparse
      obtain ⟨_, _, hread, -⟩ := parseDiscover_eq_ok_iff.1 hparse
      obtain ⟨requests, hsplits⟩ := exists_splits_of_readDiscover hread
      exact ⟨requests, hsplits, (parseDiscover_iff_makes hsplits).1 hparse⟩
    · rintro ⟨requests, hsplits, hmakes⟩
      exact (parseDiscover_iff_makes hsplits).2 hmakes
  · intro requests reordered others hsplits hothers horder word hword other hother command
    rw [parse_generate hother, parse_generate hword, parseGenerate_iff_makes hothers,
      parseGenerate_iff_makes hsplits]
    rcases horder with rfl | ⟨hperm, houtputs, hruntimes⟩
    · rfl
    · exact makesGenerate_iff_of_perm hperm houtputs hruntimes
  · intro requests reordered others hsplits hothers hperm command
    rw [parse_discover, parse_discover, parseDiscover_iff_makes hothers,
      parseDiscover_iff_makes hsplits]
    exact makesDiscover_iff_of_perm hperm

/-- An output directory may look like an option, and stays the same wherever it is given. -/
theorem parse_output_like_option :
    parse ["gen", "-o", "-v", "src"] = .ok (.generate "src" "-v" none false) ∧
      parse ["generate", "src", "--out=-v"] = .ok (.generate "src" "-v" none false) := by
  have hsource : Request.IsWritten (.source "src") ["src"] := .source (by decide)
  have hfirst : Splits ["-o", "-v", "src"] [.output "-v", .source "src"] :=
    .cons (.outputShort "-v") (.cons hsource .nil)
  have hsecond : Splits ["src", "--out=-v"] [.source "src", .output "-v"] :=
    .cons hsource (.cons (.outputJoined "-v") .nil)
  obtain ⟨hgenerate, -, hreordered, -⟩ := parse_iff_requests_make ["-o", "-v", "src"]
  have hparse : parse ["gen", "-o", "-v", "src"] = .ok (.generate "src" "-v" none false) :=
    (hgenerate "gen" (by decide) _).2 ⟨_, hfirst, "src", "-v", rfl, rfl, rfl⟩
  refine ⟨hparse, ?_⟩
  have hperm : [Request.source "src", .output "-v"].Perm [.output "-v", .source "src"] :=
    .swap _ _ _
  exact (hreordered _ _ _ hfirst hsecond (.inr ⟨hperm, by decide, by decide⟩) "gen" (by decide)
    "generate" (by decide) _).2 hparse

end EventTracking.CommandLine
