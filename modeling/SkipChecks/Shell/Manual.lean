import SkipChecks.Shell.Octets

/-!
# What programs say about themselves

The small programs tell how they are used if they are asked for that, and which version they are.
-/

namespace SkipChecks.Shell.Manual

/-- The version of a small program, under its own name. -/
def version (tool : String) : Octets := tool.toList ++ " (GNU coreutils) 9.1\n".toList

/-- The options that all small programs have. -/
def ownOptions : List String :=
  ["      --help        display this help and exit",
    "      --version     output version information and exit"]

/-- The escapes that most programs know. -/
def escapes : List String :=
  ["  \\\\      backslash", "  \\a      alert (BEL)", "  \\b      backspace",
    "  \\c      produce no further output", "  \\e      escape", "  \\f      form feed",
    "  \\n      new line", "  \\r      carriage return", "  \\t      horizontal tab",
    "  \\v      vertical tab"]

/-- What is said about the command of the shell that has the same name. -/
def note (tool : String) : List String :=
  ["", "NOTE: your shell may have its own version of " ++ tool ++ ", which usually supersedes",
    "the version described here.  Please refer to your shell's documentation",
    "for details about the options it supports."]

/-- How a small program is used, line by line, behind the name it was called by. -/
def usage (tool : String) : List String :=
  match tool with
  | "cat" =>
    [" [OPTION]... [FILE]...", "Concatenate FILE(s) to standard output.", "",
      "With no FILE, or when FILE is -, read standard input.", "",
      "  -A, --show-all           equivalent to -vET",
      "  -b, --number-nonblank    number nonempty output lines, overrides -n",
      "  -e                       equivalent to -vE",
      "  -E, --show-ends          display $ at end of each line",
      "  -n, --number             number all output lines",
      "  -s, --squeeze-blank      suppress repeated empty output lines",
      "  -t                       equivalent to -vT",
      "  -T, --show-tabs          display TAB characters as ^I",
      "  -u                       (ignored)",
      "  -v, --show-nonprinting   use ^ and M- notation, except for LFD and TAB"] ++ ownOptions
  | "echo" =>
    [" [SHORT-OPTION]... [STRING]...", "Echo the STRING(s) to standard output.", "",
      "  -n             do not output the trailing newline",
      "  -e             enable interpretation of backslash escapes",
      "  -E             disable interpretation of backslash escapes (default)"] ++ ownOptions ++
      ["", "If -e is in effect, the following sequences are recognized:", ""] ++ escapes ++
      ["  \\0NNN   byte with octal value NNN (1 to 3 digits)",
        "  \\xHH    byte with hexadecimal value HH (1 to 2 digits)"] ++ note tool
  | "printf" =>
    [" FORMAT [ARGUMENT]...",
      "Print ARGUMENT(s) according to FORMAT, or execute according to OPTION:", ""] ++ ownOptions ++
      ["", "FORMAT controls the output as in C printf.  Interpreted sequences are:", "",
        "  \\\"      double quote"] ++ escapes ++
      ["  \\NNN    byte with octal value NNN (1 to 3 digits)",
        "  \\xHH    byte with hexadecimal value HH (1 to 2 digits)",
        "  \\uHHHH  Unicode (ISO/IEC 10646) character with hex value HHHH (4 digits)",
        "  \\UHHHHHHHH  Unicode character with hex value HHHHHHHH (8 digits)",
        "  %%      a single %",
        "  %b      ARGUMENT as a string with '\\' escapes interpreted,",
        "          except that octal escapes are of the form \\0 or \\0NNN",
        "  %q      ARGUMENT is printed in a format that can be reused as shell input,",
        "          escaping non-printable characters with the proposed POSIX $'' syntax.", "",
        "and all C format specifications ending with one of diouxXfeEgGcs, with",
        "ARGUMENTs converted to proper type first.  Variable widths are handled."] ++ note tool
  | "false" =>
    [" [ignored command line arguments]", "Exit with a status code indicating failure.", ""] ++
      ownOptions ++ note tool
  | _ =>
    [" [ignored command line arguments]", "Exit with a status code indicating success.", ""] ++
      ownOptions ++ note tool

/-- How a small program is used that was called by a name. -/
def help (tool : String) (program : Octets) : Octets :=
  "Usage: ".toList ++ program ++ (usage tool).flatMap fun line => line.toList ++ ['\n']

/-- What a small program says about itself if that is all that it is asked for. -/
def answer? (tool : String) (program : Octets) : List Octets → Option Octets
  | [argument] =>
    match String.ofList argument with
    | "--help" => some (help tool program)
    | "--version" => some (version tool)
    | _ => none
  | _ => none

end SkipChecks.Shell.Manual
