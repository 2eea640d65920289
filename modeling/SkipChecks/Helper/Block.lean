import SkipChecks.Path
import SkipChecks.Text.Blank
import SkipChecks.Text.Literal

/-!
# Helper blocks

A helper block is the text of a source file. Before it goes into another file it loses its
preamble, and the place that is left open for the location of the manifest is filled in, inside a
single-quoted literal.
-/

namespace SkipChecks.Helper

/-- The declaration whose presence tells that helpers are there. -/
def marker : Text := "function skipIfRouteMissing".toList

/-- What stands where the location of the manifest goes. -/
def placeholder : Text := "\x7b\x7bROUTE_MANIFEST\x7d\x7d".toList

/-- Whether a line belongs to a preamble: blank, an opening tag, or a declaration of strict types. -/
def isPreamble (line : Text) : Bool :=
  let line := Text.trim line
  line.isEmpty || line == "<?php".toList || "declare(strict_types".toList.isPrefixOf line

/-- The text from its first line on that is not preamble. -/
def stripPreamble (s : Text) : Text := Text.join ['\n'] ((Text.lines s).dropWhile isPreamble)

/-- The location of a manifest as helpers write it: the steps of its path, with slashes. -/
def location (manifest : Path) : Text := Path.showParts manifest.parts

/-- A block as it is appended, with a location filled in. -/
def render (location block : Text) : Text :=
  Text.replace placeholder (Text.Literal.escape location) (stripPreamble block)

example :
    stripPreamble "<?php\n\t\ndeclare(strict_types=1);\nf();\n\n".toList = "f();\n\n".toList := by
  decide +kernel

end SkipChecks.Helper
