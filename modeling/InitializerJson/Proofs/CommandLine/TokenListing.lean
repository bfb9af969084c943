import InitializerJson.Proofs.CommandLine.WrittenArguments
import InitializerJson.CommandLine.Run
import InitializerJson.Proofs.Extraction.WrittenFile
import InitializerJson.Proofs.Lexical.ListingLines

namespace InitializerJson

open Lexical

/-!
# What the listing of a file prints

The listing of a file that can be read as tokens is printed in lines.  Every token has a
line that begins with its position and class, and these positions grow.  Interpolated
text is printed as it is written, so that one over several lines has more lines than that.
-/

/-- A path behind two hyphens, or one that is no option, is listed. -/
theorem readCommand?_tokens
    {path : String}
    (filled : path ≠ "")
    {arguments : List String}
    (given :
      arguments = ["tokens", "--", path] ∨
        arguments = ["tokens", path] ∧
          looksLikeOption path.toList = false ∧
          path ≠ "--") :
    readCommand? arguments = some (.tokens path) := by
  have reads : readArguments? .tokens arguments.tail = some [.file path] := by
    rcases given with rfl | ⟨rfl, noOption, notEnd⟩
    · rfl
    · exact readArguments?_file noOption notEnd []
  have assembled : CommandName.assemble? .tokens [.file path] = some (.tokens path) := by
    simp [CommandName.assemble?, Argument.file?, Argument.identifier?, Argument.output?,
      List.filterMap_cons, atMostOne, Ne.symm filled]
  have named : arguments = "tokens" :: arguments.tail := by
    rcases given with rfl | ⟨rfl, _, _⟩ <;> rfl
  rw [named]
  simp [readCommand?, CommandName.ofWord?, CommandName.command?, reads, assembled]

/-- What leaves the host as it is leaves files in the working directory as they are. -/
theorem runProgram_eq_of_run
    {system : FileSystem}
    {arguments : List String}
    {outcome : Outcome}
    (ran : (Host.around system).run arguments = (outcome, Host.around system)) :
    runProgram system arguments = (outcome, system) := by
  have kept : (Host.around system).system.filesBelow Host.scratch = system.files :=
    FileSystem.filesBelow_inside system Host.scratch
  simp only [runProgram, ran, kept]

/--
A file that can be read as tokens is listed, and nothing else is said or written, in whatever
way files are read.  The output is made up of lines, with a group of them for each token: the
first begins with the token's position and class, and there is one more for each line feed in
interpolated text.  So there is one line for each token exactly if no interpolated text has a
line feed.  The positions are those of the tokens' first characters, and each is behind the one
before.
-/
theorem actionOf_tokens
    {read : FileReader}
    {arguments : List String}
    {path source : String}
    {tokens : List Token}
    (command : readCommand? arguments = some (.tokens path))
    (readable : read path = .ok source)
    (tokenized : tokenize source = .ok tokens)
    (check : DocumentCheck) :
    ∃ output groups,
      actionOf check read arguments = .finish (.success output) ∧
        (∀ host : Host,
          host.read path = .ok source → host.run arguments = (.success output, host)) ∧
        (∀ system : FileSystem,
          system.read path = .ok source →
            runProgram system arguments = (.success output, system)) ∧
        IsLines output.toList groups.flatten ∧
        List.Forall₂ PlacedToken.IsShownOn (placeTokens tokens) groups ∧
        (List.Forall₂ PlacedToken.Heads (placeTokens tokens) groups.flatten ↔
          ∀ token ∈ tokens, token.kind.breaks = 0) ∧
        (∀ placed ∈ placeTokens tokens, placed.StandsIn source.toList) ∧
        (placeTokens tokens).Pairwise fun first second =>
          first.position.Precedes second.position := by
  obtain ⟨groups, lines, shown⟩ := exists_groups_of_tokenize tokenized
  have listed {check : DocumentCheck} {read : FileReader} (readable : read path = .ok source) :
      actionOf check read arguments = .finish (.success (listing tokens)) := by
    simp only [actionOf, command, Command.run, runTokens, readable, tokenized]
  have ran (host : Host) (readable : host.read path = .ok source) :
      host.run arguments = (.success (listing tokens), host) := by
    rw [Host.run, listed readable, Action.perform]
  have single :
      List.Forall₂ PlacedToken.Heads (placeTokens tokens) groups.flatten ↔
        ∀ token ∈ tokens, token.kind.breaks = 0 := by
    rw [PlacedToken.heads_flatten_iff_of_isShownOn shown]
    have kept : (placeTokens tokens).map PlacedToken.token = tokens :=
      map_token_placeFrom 0 Position.start tokens
    conv_rhs => rw [← kept, List.forall_mem_map]
  exact ⟨listing tokens, groups, listed readable, ran,
    fun system readable => runProgram_eq_of_run (ran (.around system) readable),
    lines, shown, single, standsIn_and_precedes_of_tokenize tokenized⟩

/-- Text over two lines and a name behind it on the second of them. -/
def twoLineTokens : List Token :=
  [
    ⟨.interpolated "$@\"é\n\"", [], ['$', '@', '"', 'é', '\n', '"']⟩,
    ⟨.identifier "b", [' '], ['b']⟩
  ]

/-- A working directory with one file in it. -/
def directoryWith
    (name text : String) :
    FileSystem :=
  ⟨[([name], text.toUTF8)], []⟩

/-- Text over two lines is listed on two lines, and the name behind it on one. -/
theorem actionOf_tokens_broken :
    readCommand? ["tokens", "a.cs"] = some (.tokens "a.cs") ∧
      (directoryWith "a.cs" "$@\"é\n\" b").read "a.cs" = .ok "$@\"é\n\" b" ∧
      tokenize "$@\"é\n\" b" = .ok twoLineTokens ∧
      ∃ output groups,
        runProgram (directoryWith "a.cs" "$@\"é\n\" b") ["tokens", "a.cs"] =
            (.success output, directoryWith "a.cs" "$@\"é\n\" b") ∧
          IsLines output.toList groups.flatten ∧
          List.Forall₂ PlacedToken.IsShownOn (placeTokens twoLineTokens) groups ∧
          (List.Forall₂ PlacedToken.Heads (placeTokens twoLineTokens) groups.flatten ↔
            ∀ token ∈ twoLineTokens, token.kind.breaks = 0) ∧
          (∀ placed ∈ placeTokens twoLineTokens, placed.StandsIn "$@\"é\n\" b".toList) ∧
          (placeTokens twoLineTokens).Pairwise fun first second =>
            first.position.Precedes second.position := by
  have command : readCommand? ["tokens", "a.cs"] = some (.tokens "a.cs") :=
    readCommand?_tokens (by decide) (.inr ⟨rfl, by decide, by decide⟩)
  have readable :
      (directoryWith "a.cs" "$@\"é\n\" b").read "a.cs" = .ok "$@\"é\n\" b" := by
    decide +kernel
  have tokenized : tokenize "$@\"é\n\" b" = .ok twoLineTokens :=
    tokenize_eq_ok_iff.mpr (by decide +kernel)
  obtain ⟨output, groups, -, -, ran, listed⟩ :=
    actionOf_tokens command readable tokenized .admitAll
  exact ⟨command, readable, tokenized, output, groups, ran _ readable, listed⟩

/-- One token over two lines is not listed on one line. -/
theorem runProgram_tokens_twoLines :
    ∃ token output,
      tokenize "$@\"a\nb\"" = .ok [token] ∧
        (runProgram (directoryWith "a.cs" "$@\"a\nb\"") ["tokens", "a.cs"]).1 =
          .success output ∧
        ∀ lines, IsLines output.toList lines → lines.length ≠ 1 := by
  have tokenized :
      tokenize "$@\"a\nb\"" =
        .ok [⟨.interpolated "$@\"a\nb\"", [], ['$', '@', '"', 'a', '\n', 'b', '"']⟩] :=
    tokenize_eq_ok_iff.mpr (by decide +kernel)
  have listed :
      (runProgram (directoryWith "a.cs" "$@\"a\nb\"") ["tokens", "a.cs"]).1 =
        .success "1:1\tinterpolated\t$@\"a\nb\"\n" := by
    decide +kernel
  refine ⟨_, _, tokenized, listed, fun lines isLines => ?_⟩
  have two : "1:1\tinterpolated\t$@\"a\nb\"\n".toList.count '\n' = 2 := by
    decide +kernel
  rw [isLines.length_eq, two]
  decide

end InitializerJson
