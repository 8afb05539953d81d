import LintDesk.Diagnostic

/-! # Analyzers

How to invoke one external tool and how to read what it prints.
-/

namespace LintDesk

/-- A rule for lines of output. The pattern names its groups `line`, `column`, `severity` and
`message`; the message template defaults to the group `message`. -/
structure OutputRule where
  pattern : String
  message : Option String := none
  severity : Option Severity := none
deriving DecidableEq, Repr

/-- The description of one analyzer. A missing program stands for the configured interpreter. The
exit codes are those whose output still carries diagnostics. -/
structure Analyzer where
  id : String
  name : String
  program : Option String := none
  args : List String
  enabled : Bool := true
  options : List String := []
  optionFlag : String := ""
  exitCodes : List Int := [0]
  rules : List OutputRule := []
deriving DecidableEq, Repr

namespace Analyzer

/-- Placeholder for the analyzed file; it must be a whole argument. -/
def fileHole : String := "\x7bfile\x7d"

/-- Placeholder for the option list; it must be a whole argument. -/
def optionsHole : String := "\x7boptions\x7d"

/-- Placeholder for the vendor directory; it may stand inside an argument. -/
def vendorHole : String := "\x7bvendor\x7d"

/-! ## The analyzers that come with the program -/

def phpcpd : Analyzer where
  id := "phpcpd"
  name := "PHP Copy/Paste Detector"
  args := [vendorHole ++ "/phpcpd/phpcpd.phar", fileHole]
  exitCodes := [0, 1]
  rules := [{
    pattern := "^\\s+(?:-\\s+)?(?P<file>.+?):(?P<line>\\d+)-(?P<end>\\d+)"
    message := some "Duplicated code on lines $\x7bline\x7d-$\x7bend\x7d"
    severity := some .warning }]

def phpcs : Analyzer where
  id := "phpcs"
  name := "PHP CodeSniffer"
  args := [vendorHole ++ "/phpcs/phpcs.phar", "--report=emacs", optionsHole, fileHole]
  optionFlag := "--standard="
  exitCodes := [0, 1, 2]
  rules := [{
    pattern := "^(?P<file>.+?):(?P<line>\\d+):(?P<column>\\d+): (?P<severity>error|warning) - (?P<message>.+)$" }]

def phpl : Analyzer where
  id := "phpl"
  name := "PHP Lint"
  args := ["-d", "display_errors=1", "-d", "error_reporting=-1", "-l", fileHole]
  exitCodes := [0, 255]
  rules := [{
    pattern := "^(?:PHP )?(?P<severity>Parse error|Fatal error|Warning|Deprecated|Notice):\\s*(?P<message>.+) in .+? on line (?P<line>\\d+)\\s*$" }]

def phpmd : Analyzer where
  id := "phpmd"
  name := "PHP Mess Detector"
  args := [vendorHole ++ "/phpmd/phpmd.phar", fileHole, "text", optionsHole]
  exitCodes := [0, 1, 2]
  rules := [{
    pattern := "^(?P<file>.+?):(?P<line>\\d+)\\s+(?P<message>.+)$"
    severity := some .warning }]

def builtin : List Analyzer := [phpcpd, phpcs, phpl, phpmd]

def builtin? (id : String) : Option Analyzer := builtin.find? (·.id == id)

end Analyzer
end LintDesk
