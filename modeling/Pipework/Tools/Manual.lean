import Pipework.Tools.Common

/-! What the tools say about themselves: asked with `--help`, how a tool is used; asked with
`--version`, the release it belongs to. -/

namespace Pipework.Tools

open Pipework.Host

/-- What a tool says about itself: the name it goes by and the lines of its help, given the name
it was started under. -/
structure Manual where
  name : String
  help : String → List String

def Manual.version (m : Manual) : String :=
  m.name ++ " (GNU coreutils) 9.1\n"

def helpOptionLine : String :=
  "      --help        display this help and exit"

def versionOptionLine : String :=
  "      --version     output version information and exit"

def closingLines (tool : String) : List String :=
  ["", "Full documentation: info '(coreutils) " ++ tool ++ " invocation'"]

def Manual.answer {α : Type} (m : Manual) (p : Proc) (asked : String) : Sys α := do
  if asked == "help" then emitText p ("\n".intercalate (m.help p.name) ++ "\n")
  else emitText p m.version
  Sys.exit 0

def Manual.options (m : Manual) (p : Proc) (spec : OptSpec) (args : List String) :
    Sys (Except String Parsed) := do
  match parseOpts spec args with
  | .ok parsed =>
    match parsed.asked with
    | some asked => m.answer p asked
    | none => pure (.ok parsed)
  | .error e => pure (.error e)

def Manual.lone (m : Manual) (p : Proc) : Sys Unit :=
  match p.args with
  | ["--help"] => m.answer p "help"
  | ["--version"] => m.answer p "version"
  | _ => pure ()

def basenameHelp (name : String) : List String :=
  ["Usage: " ++ name ++ " NAME [SUFFIX]",
   "  or:  " ++ name ++ " OPTION... NAME...",
   "Print NAME with any leading directory components removed.",
   "If specified, also remove a trailing SUFFIX.",
   "",
   "Mandatory arguments to long options are mandatory for short options too.",
   "  -a, --multiple       support multiple arguments and treat each as a NAME",
   "  -s, --suffix=SUFFIX  remove a trailing SUFFIX; implies -a",
   "  -z, --zero           end each output line with NUL, not newline",
   helpOptionLine,
   versionOptionLine,
   "",
   "Examples:",
   "  " ++ name ++ " /usr/bin/sort          -> \"sort\"",
   "  " ++ name ++ " include/stdio.h .h     -> \"stdio\"",
   "  " ++ name ++ " -s .h include/stdio.h  -> \"stdio\"",
   "  " ++ name ++ " -a any/str1 any/str2   -> \"str1\" followed by \"str2\""] ++
  closingLines "basename"

def catHelp (name : String) : List String :=
  ["Usage: " ++ name ++ " [OPTION]... [FILE]...",
   "Concatenate FILE(s) to standard output.",
   "",
   "With no FILE, or when FILE is -, read standard input.",
   "",
   "  -A, --show-all           equivalent to -vET",
   "  -b, --number-nonblank    number nonempty output lines, overrides -n",
   "  -e                       equivalent to -vE",
   "  -E, --show-ends          display $ at end of each line",
   "  -n, --number             number all output lines",
   "  -s, --squeeze-blank      suppress repeated empty output lines",
   "  -t                       equivalent to -vT",
   "  -T, --show-tabs          display TAB characters as ^I",
   "  -u                       (ignored)",
   "  -v, --show-nonprinting   use ^ and M- notation, except for LFD and TAB",
   helpOptionLine,
   versionOptionLine,
   "",
   "Examples:",
   "  " ++ name ++ " f - g  Output f's contents, then standard input, then g's contents.",
   "  " ++ name ++ "        Copy standard input to standard output."] ++
  closingLines "cat"

def cpHelp (name : String) : List String :=
  ["Usage: " ++ name ++ " [OPTION]... [-T] SOURCE DEST", "Copy SOURCE to DEST, or multiple SOURCE(s) to DIRECTORY.", "", helpOptionLine, versionOptionLine] ++
  closingLines "cp"

def dirnameHelp (name : String) : List String :=
  ["Usage: " ++ name ++ " [OPTION] NAME...",
   "Output each NAME with its last non-slash component and trailing slashes",
   "removed; if NAME contains no /'s, output '.' (meaning the current directory).",
   "",
   "  -z, --zero     end each output line with NUL, not newline",
   helpOptionLine,
   versionOptionLine,
   "",
   "Examples:",
   "  " ++ name ++ " /usr/bin/          -> \"/usr\"",
   "  " ++ name ++ " dir1/str dir2/str  -> \"dir1\" followed by \"dir2\"",
   "  " ++ name ++ " stdio.h            -> \".\""] ++
  closingLines "dirname"

def echoHelp (name : String) : List String :=
  ["Usage: " ++ name ++ " [SHORT-OPTION]... [STRING]...",
   "  or:  " ++ name ++ " LONG-OPTION",
   "Echo the STRING(s) to standard output.",
   "",
   "  -n             do not output the trailing newline",
   "  -e             enable interpretation of backslash escapes",
   "  -E             disable interpretation of backslash escapes (default)",
   helpOptionLine,
   versionOptionLine,
   "",
   "If -e is in effect, the following sequences are recognized:",
   "",
   "  \\\\      backslash",
   "  \\a      alert (BEL)",
   "  \\b      backspace",
   "  \\c      produce no further output",
   "  \\e      escape",
   "  \\f      form feed",
   "  \\n      new line",
   "  \\r      carriage return",
   "  \\t      horizontal tab",
   "  \\v      vertical tab",
   "  \\0NNN   byte with octal value NNN (1 to 3 digits)",
   "  \\xHH    byte with hexadecimal value HH (1 to 2 digits)",
   "",
   "NOTE: your shell may have its own version of echo, which usually supersedes",
   "the version described here.  Please refer to your shell's documentation",
   "for details about the options it supports."] ++
  closingLines "echo"

def envHelp (name : String) : List String :=
  ["Usage: " ++ name ++ " [OPTION]... [-] [NAME=VALUE]... [COMMAND [ARG]...]",
   "Set each NAME to VALUE in the environment and run COMMAND.",
   "",
   "Mandatory arguments to long options are mandatory for short options too.",
   "  -i, --ignore-environment  start with an empty environment",
   "  -0, --null           end each output line with NUL, not newline",
   "  -u, --unset=NAME     remove variable from the environment",
   "  -C, --chdir=DIR      change working directory to DIR",
   "  -S, --split-string=S  process and split S into separate arguments;",
   "                        used to pass multiple arguments on shebang lines",
   "      --block-signal[=SIG]    block delivery of SIG signal(s) to COMMAND",
   "      --default-signal[=SIG]  reset handling of SIG signal(s) to the default",
   "      --ignore-signal[=SIG]   set handling of SIG signal(s) to do nothing",
   "      --list-signal-handling  list non default signal handling to stderr",
   "  -v, --debug          print verbose information for each processing step",
   helpOptionLine,
   versionOptionLine,
   "",
   "A mere - implies -i.  If no COMMAND, print the resulting environment.",
   "",
   "SIG may be a signal name like 'PIPE', or a signal number like '13'.",
   "Without SIG, all known signals are included.  Multiple signals can be",
   "comma-separated.",
   "",
   "Exit status:",
   "  125  if the env command itself fails",
   "  126  if COMMAND is found but cannot be invoked",
   "  127  if COMMAND cannot be found",
   "  -    the exit status of COMMAND otherwise"] ++
  closingLines "env"

def falseHelp (name : String) : List String :=
  ["Usage: " ++ name ++ " [ignored command line arguments]",
   "  or:  " ++ name ++ " OPTION",
   "Exit with a status code indicating failure.",
   "",
   helpOptionLine,
   versionOptionLine,
   "",
   "NOTE: your shell may have its own version of false, which usually supersedes",
   "the version described here.  Please refer to your shell's documentation",
   "for details about the options it supports."] ++
  closingLines "false"

def headHelp (name : String) : List String :=
  ["Usage: " ++ name ++ " [OPTION]... [FILE]...",
   "Print the first 10 lines of each FILE to standard output.",
   "With more than one FILE, precede each with a header giving the file name.",
   "",
   "With no FILE, or when FILE is -, read standard input.",
   "",
   "Mandatory arguments to long options are mandatory for short options too.",
   "  -c, --bytes=[-]NUM       print the first NUM bytes of each file;",
   "                             with the leading '-', print all but the last",
   "                             NUM bytes of each file",
   "  -n, --lines=[-]NUM       print the first NUM lines instead of the first 10;",
   "                             with the leading '-', print all but the last",
   "                             NUM lines of each file",
   "  -q, --quiet, --silent    never print headers giving file names",
   "  -v, --verbose            always print headers giving file names",
   "  -z, --zero-terminated    line delimiter is NUL, not newline",
   helpOptionLine,
   versionOptionLine,
   "",
   "NUM may have a multiplier suffix:",
   "b 512, kB 1000, K 1024, MB 1000*1000, M 1024*1024,",
   "GB 1000*1000*1000, G 1024*1024*1024, and so on for T, P, E, Z, Y.",
   "Binary prefixes can be used, too: KiB=K, MiB=M, and so on."] ++
  closingLines "head"

def lsHelp (name : String) : List String :=
  ["Usage: " ++ name ++ " [OPTION]... [FILE]...", "List information about the FILEs (the current directory by default).", "", helpOptionLine, versionOptionLine] ++
  closingLines "ls"

def mkdirHelp (name : String) : List String :=
  ["Usage: " ++ name ++ " [OPTION]... DIRECTORY...",
   "Create the DIRECTORY(ies), if they do not already exist.",
   "",
   "Mandatory arguments to long options are mandatory for short options too.",
   "  -m, --mode=MODE   set file mode (as in chmod), not a=rwx - umask",
   "  -p, --parents     no error if existing, make parent directories as needed,",
   "                    with their file modes unaffected by any -m option.",
   "  -v, --verbose     print a message for each created directory",
   "  -Z                   set SELinux security context of each created directory",
   "                         to the default type",
   "      --context[=CTX]  like -Z, or if CTX is specified then set the SELinux",
   "                         or SMACK security context to CTX",
   helpOptionLine,
   versionOptionLine] ++
  closingLines "mkdir"

def mvHelp (name : String) : List String :=
  ["Usage: " ++ name ++ " [OPTION]... [-T] SOURCE DEST", "Rename SOURCE to DEST, or move SOURCE(s) to DIRECTORY.", "", helpOptionLine, versionOptionLine] ++
  closingLines "mv"

def printfHelp (name : String) : List String :=
  ["Usage: " ++ name ++ " FORMAT [ARGUMENT]...",
   "  or:  " ++ name ++ " OPTION",
   "Print ARGUMENT(s) according to FORMAT, or execute according to OPTION:",
   "",
   helpOptionLine,
   versionOptionLine,
   "",
   "FORMAT controls the output as in C printf.  Interpreted sequences are:",
   "",
   "  \\\"      double quote",
   "  \\\\      backslash",
   "  \\a      alert (BEL)",
   "  \\b      backspace",
   "  \\c      produce no further output",
   "  \\e      escape",
   "  \\f      form feed",
   "  \\n      new line",
   "  \\r      carriage return",
   "  \\t      horizontal tab",
   "  \\v      vertical tab",
   "  \\NNN    byte with octal value NNN (1 to 3 digits)",
   "  \\xHH    byte with hexadecimal value HH (1 to 2 digits)",
   "  \\uHHHH  Unicode (ISO/IEC 10646) character with hex value HHHH (4 digits)",
   "  \\UHHHHHHHH  Unicode character with hex value HHHHHHHH (8 digits)",
   "  %%      a single %",
   "  %b      ARGUMENT as a string with '\\' escapes interpreted,",
   "          except that octal escapes are of the form \\0 or \\0NNN",
   "  %q      ARGUMENT is printed in a format that can be reused as shell input,",
   "          escaping non-printable characters with the proposed POSIX $'' syntax.",
   "",
   "and all C format specifications ending with one of diouxXfeEgGcs, with",
   "ARGUMENTs converted to proper type first.  Variable widths are handled.",
   "",
   "NOTE: your shell may have its own version of printf, which usually supersedes",
   "the version described here.  Please refer to your shell's documentation",
   "for details about the options it supports."] ++
  closingLines "printf"

def pwdHelp (name : String) : List String :=
  ["Usage: " ++ name ++ " [OPTION]...",
   "Print the full filename of the current working directory.",
   "",
   "  -L, --logical   use PWD from environment, even if it contains symlinks",
   "  -P, --physical  avoid all symlinks",
   helpOptionLine,
   versionOptionLine,
   "",
   "If no option is specified, -P is assumed.",
   "",
   "NOTE: your shell may have its own version of pwd, which usually supersedes",
   "the version described here.  Please refer to your shell's documentation",
   "for details about the options it supports."] ++
  closingLines "pwd"

def rmHelp (name : String) : List String :=
  ["Usage: " ++ name ++ " [OPTION]... [FILE]...",
   "Remove (unlink) the FILE(s).",
   "",
   "  -f, --force           ignore nonexistent files and arguments, never prompt",
   "  -i                    prompt before every removal",
   "  -I                    prompt once before removing more than three files, or",
   "                          when removing recursively; less intrusive than -i,",
   "                          while still giving protection against most mistakes",
   "      --interactive[=WHEN]  prompt according to WHEN: never, once (-I), or",
   "                          always (-i); without WHEN, prompt always",
   "      --one-file-system  when removing a hierarchy recursively, skip any",
   "                          directory that is on a file system different from",
   "                          that of the corresponding command line argument",
   "      --no-preserve-root  do not treat '/' specially",
   "      --preserve-root[=all]  do not remove '/' (default);",
   "                              with 'all', reject any command line argument",
   "                              on a separate device from its parent",
   "  -r, -R, --recursive   remove directories and their contents recursively",
   "  -d, --dir             remove empty directories",
   "  -v, --verbose         explain what is being done",
   helpOptionLine,
   versionOptionLine,
   "",
   "By default, rm does not remove directories.  Use the --recursive (-r or -R)",
   "option to remove each listed directory, too, along with all of its contents.",
   "",
   "To remove a file whose name starts with a '-', for example '-foo',",
   "use one of these commands:",
   "  " ++ name ++ " -- -foo",
   "",
   "  " ++ name ++ " ./-foo",
   "",
   "Note that if you use rm to remove a file, it might be possible to recover",
   "some of its contents, given sufficient expertise and/or time.  For greater",
   "assurance that the contents are truly unrecoverable, consider using shred(1)."] ++
  closingLines "rm"

def rmdirHelp (name : String) : List String :=
  ["Usage: " ++ name ++ " [OPTION]... DIRECTORY...",
   "Remove the DIRECTORY(ies), if they are empty.",
   "",
   "      --ignore-fail-on-non-empty",
   "                    ignore each failure to remove a non-empty directory",
   "  -p, --parents     remove DIRECTORY and its ancestors;",
   "                    e.g., 'rmdir -p a/b' is similar to 'rmdir a/b a'",
   "",
   "  -v, --verbose     output a diagnostic for every directory processed",
   helpOptionLine,
   versionOptionLine] ++
  closingLines "rmdir"

def seqHelp (name : String) : List String :=
  ["Usage: " ++ name ++ " [OPTION]... LAST",
   "  or:  " ++ name ++ " [OPTION]... FIRST LAST",
   "  or:  " ++ name ++ " [OPTION]... FIRST INCREMENT LAST",
   "Print numbers from FIRST to LAST, in steps of INCREMENT.",
   "",
   "Mandatory arguments to long options are mandatory for short options too.",
   "  -f, --format=FORMAT      use printf style floating-point FORMAT",
   "  -s, --separator=STRING   use STRING to separate numbers (default: \\n)",
   "  -w, --equal-width        equalize width by padding with leading zeroes",
   helpOptionLine,
   versionOptionLine,
   "",
   "If FIRST or INCREMENT is omitted, it defaults to 1.  That is, an",
   "omitted INCREMENT defaults to 1 even when LAST is smaller than FIRST.",
   "The sequence of numbers ends when the sum of the current number and",
   "INCREMENT would become greater than LAST.",
   "FIRST, INCREMENT, and LAST are interpreted as floating point values.",
   "INCREMENT is usually positive if FIRST is smaller than LAST, and",
   "INCREMENT is usually negative if FIRST is greater than LAST.",
   "INCREMENT must not be 0; none of FIRST, INCREMENT and LAST may be NaN.",
   "FORMAT must be suitable for printing one argument of type 'double';",
   "it defaults to %.PRECf if FIRST, INCREMENT, and LAST are all fixed point",
   "decimal numbers with maximum precision PREC, and to %g otherwise."] ++
  closingLines "seq"

def sleepHelp (name : String) : List String :=
  ["Usage: " ++ name ++ " NUMBER[SUFFIX]...",
   "  or:  " ++ name ++ " OPTION",
   "Pause for NUMBER seconds.  SUFFIX may be 's' for seconds (the default),",
   "'m' for minutes, 'h' for hours or 'd' for days.  NUMBER need not be an",
   "integer.  Given two or more arguments, pause for the amount of time",
   "specified by the sum of their values.",
   "",
   helpOptionLine,
   versionOptionLine] ++
  closingLines "sleep"

def sortHelp (name : String) : List String :=
  ["Usage: " ++ name ++ " [OPTION]... [FILE]...",
   "  or:  " ++ name ++ " [OPTION]... --files0-from=F",
   "Write sorted concatenation of all FILE(s) to standard output.",
   "",
   "With no FILE, or when FILE is -, read standard input.",
   "",
   "Mandatory arguments to long options are mandatory for short options too.",
   "Ordering options:",
   "",
   "  -b, --ignore-leading-blanks  ignore leading blanks",
   "  -d, --dictionary-order      consider only blanks and alphanumeric characters",
   "  -f, --ignore-case           fold lower case to upper case characters",
   "  -g, --general-numeric-sort  compare according to general numerical value",
   "  -i, --ignore-nonprinting    consider only printable characters",
   "  -M, --month-sort            compare (unknown) < 'JAN' < ... < 'DEC'",
   "  -h, --human-numeric-sort    compare human readable numbers (e.g., 2K 1G)",
   "  -n, --numeric-sort          compare according to string numerical value",
   "  -R, --random-sort           shuffle, but group identical keys.  See shuf(1)",
   "      --random-source=FILE    get random bytes from FILE",
   "  -r, --reverse               reverse the result of comparisons",
   "      --sort=WORD             sort according to WORD:",
   "                                general-numeric -g, human-numeric -h, month -M,",
   "                                numeric -n, random -R, version -V",
   "  -V, --version-sort          natural sort of (version) numbers within text",
   "",
   "Other options:",
   "",
   "      --batch-size=NMERGE   merge at most NMERGE inputs at once;",
   "                            for more use temp files",
   "  -c, --check, --check=diagnose-first  check for sorted input; do not sort",
   "  -C, --check=quiet, --check=silent  like -c, but do not report first bad line",
   "      --compress-program=PROG  compress temporaries with PROG;",
   "                              decompress them with PROG -d",
   "      --debug               annotate the part of the line used to sort,",
   "                              and warn about questionable usage to stderr",
   "      --files0-from=F       read input from the files specified by",
   "                            NUL-terminated names in file F;",
   "                            If F is - then read names from standard input",
   "  -k, --key=KEYDEF          sort via a key; KEYDEF gives location and type",
   "  -m, --merge               merge already sorted files; do not sort",
   "  -o, --output=FILE         write result to FILE instead of standard output",
   "  -s, --stable              stabilize sort by disabling last-resort comparison",
   "  -S, --buffer-size=SIZE    use SIZE for main memory buffer",
   "  -t, --field-separator=SEP  use SEP instead of non-blank to blank transition",
   "  -T, --temporary-directory=DIR  use DIR for temporaries, not $TMPDIR or /tmp;",
   "                              multiple options specify multiple directories",
   "      --parallel=N          change the number of sorts run concurrently to N",
   "  -u, --unique              with -c, check for strict ordering;",
   "                              without -c, output only the first of an equal run",
   "  -z, --zero-terminated     line delimiter is NUL, not newline",
   helpOptionLine,
   versionOptionLine,
   "",
   "KEYDEF is F[.C][OPTS][,F[.C][OPTS]] for start and stop position, where F is a",
   "field number and C a character position in the field; both are origin 1, and",
   "the stop position defaults to the line's end.  If neither -t nor -b is in",
   "effect, characters in a field are counted from the beginning of the preceding",
   "whitespace.  OPTS is one or more single-letter ordering options [bdfgiMhnRrV],",
   "which override global ordering options for that key.  If no key is given, use",
   "the entire line as the key.  Use --debug to diagnose incorrect key usage.",
   "",
   "SIZE may be followed by the following multiplicative suffixes:",
   "% 1% of memory, b 1, K 1024 (default), and so on for M, G, T, P, E, Z, Y.",
   "",
   "*** WARNING ***",
   "The locale specified by the environment affects sort order.",
   "Set LC_ALL=C to get the traditional sort order that uses",
   "native byte values."] ++
  closingLines "sort"

def tacHelp (name : String) : List String :=
  ["Usage: " ++ name ++ " [OPTION]... [FILE]...",
   "Write each FILE to standard output, last line first.",
   "",
   "With no FILE, or when FILE is -, read standard input.",
   "",
   "Mandatory arguments to long options are mandatory for short options too.",
   "  -b, --before             attach the separator before instead of after",
   "  -r, --regex              interpret the separator as a regular expression",
   "  -s, --separator=STRING   use STRING as the separator instead of newline",
   helpOptionLine,
   versionOptionLine] ++
  closingLines "tac"

def tailHelp (name : String) : List String :=
  ["Usage: " ++ name ++ " [OPTION]... [FILE]...",
   "Print the last 10 lines of each FILE to standard output.",
   "With more than one FILE, precede each with a header giving the file name.",
   "",
   "With no FILE, or when FILE is -, read standard input.",
   "",
   "Mandatory arguments to long options are mandatory for short options too.",
   "  -c, --bytes=[+]NUM       output the last NUM bytes; or use -c +NUM to",
   "                             output starting with byte NUM of each file",
   "  -f, --follow[=\x7bname|descriptor\x7d]",
   "                           output appended data as the file grows;",
   "                             an absent option argument means 'descriptor'",
   "  -F                       same as --follow=name --retry",
   "  -n, --lines=[+]NUM       output the last NUM lines, instead of the last 10;",
   "                             or use -n +NUM to skip NUM-1 lines at the start",
   "      --max-unchanged-stats=N",
   "                           with --follow=name, reopen a FILE which has not",
   "                             changed size after N (default 5) iterations",
   "                             to see if it has been unlinked or renamed",
   "                             (this is the usual case of rotated log files);",
   "                             with inotify, this option is rarely useful",
   "      --pid=PID            with -f, terminate after process ID, PID dies",
   "  -q, --quiet, --silent    never output headers giving file names",
   "      --retry              keep trying to open a file if it is inaccessible",
   "  -s, --sleep-interval=N   with -f, sleep for approximately N seconds",
   "                             (default 1.0) between iterations;",
   "                             with inotify and --pid=P, check process P at",
   "                             least once every N seconds",
   "  -v, --verbose            always output headers giving file names",
   "  -z, --zero-terminated    line delimiter is NUL, not newline",
   helpOptionLine,
   versionOptionLine,
   "",
   "NUM may have a multiplier suffix:",
   "b 512, kB 1000, K 1024, MB 1000*1000, M 1024*1024,",
   "GB 1000*1000*1000, G 1024*1024*1024, and so on for T, P, E, Z, Y.",
   "Binary prefixes can be used, too: KiB=K, MiB=M, and so on.",
   "",
   "With --follow (-f), tail defaults to following the file descriptor, which",
   "means that even if a tail'ed file is renamed, tail will continue to track",
   "its end.  This default behavior is not desirable when you really want to",
   "track the actual name of the file, not the file descriptor (e.g., log",
   "rotation).  Use --follow=name in that case.  That causes tail to track the",
   "named file in a way that accommodates renaming, removal and creation."] ++
  closingLines "tail"

def teeHelp (name : String) : List String :=
  ["Usage: " ++ name ++ " [OPTION]... [FILE]...",
   "Copy standard input to each FILE, and also to standard output.",
   "",
   "  -a, --append              append to the given FILEs, do not overwrite",
   "  -i, --ignore-interrupts   ignore interrupt signals",
   "  -p                        diagnose errors writing to non pipes",
   "      --output-error[=MODE]   set behavior on write error.  See MODE below",
   helpOptionLine,
   versionOptionLine,
   "",
   "MODE determines behavior with write errors on the outputs:",
   "  warn           diagnose errors writing to any output",
   "  warn-nopipe    diagnose errors writing to any output not a pipe",
   "  exit           exit on error writing to any output",
   "  exit-nopipe    exit on error writing to any output not a pipe",
   "The default MODE for the -p option is 'warn-nopipe'.",
   "The default operation when --output-error is not specified, is to",
   "exit immediately on error writing to a pipe, and diagnose errors",
   "writing to non pipe outputs."] ++
  closingLines "tee"

def touchHelp (name : String) : List String :=
  ["Usage: " ++ name ++ " [OPTION]... FILE...",
   "Update the access and modification times of each FILE to the current time.",
   "",
   "A FILE argument that does not exist is created empty, unless -c or -h",
   "is supplied.",
   "",
   "A FILE argument string of - is handled specially and causes touch to",
   "change the times of the file associated with standard output.",
   "",
   "Mandatory arguments to long options are mandatory for short options too.",
   "  -a                     change only the access time",
   "  -c, --no-create        do not create any files",
   "  -d, --date=STRING      parse STRING and use it instead of current time",
   "  -f                     (ignored)",
   "  -h, --no-dereference   affect each symbolic link instead of any referenced",
   "                         file (useful only on systems that can change the",
   "                         timestamps of a symlink)",
   "  -m                     change only the modification time",
   "  -r, --reference=FILE   use this file's times instead of current time",
   "  -t STAMP               use [[CC]YY]MMDDhhmm[.ss] instead of current time",
   "      --time=WORD        change the specified time:",
   "                           WORD is access, atime, or use: equivalent to -a",
   "                           WORD is modify or mtime: equivalent to -m",
   helpOptionLine,
   versionOptionLine,
   "",
   "Note that the -d and -t options accept different time-date formats."] ++
  closingLines "touch"

def trHelp (name : String) : List String :=
  ["Usage: " ++ name ++ " [OPTION]... STRING1 [STRING2]",
   "Translate, squeeze, and/or delete characters from standard input,",
   "writing to standard output.  STRING1 and STRING2 specify arrays of",
   "characters ARRAY1 and ARRAY2 that control the action.",
   "",
   "  -c, -C, --complement    use the complement of ARRAY1",
   "  -d, --delete            delete characters in ARRAY1, do not translate",
   "  -s, --squeeze-repeats   replace each sequence of a repeated character",
   "                            that is listed in the last specified ARRAY,",
   "                            with a single occurrence of that character",
   "  -t, --truncate-set1     first truncate ARRAY1 to length of ARRAY2",
   helpOptionLine,
   versionOptionLine,
   "",
   "ARRAYs are specified as strings of characters.  Most represent themselves.",
   "Interpreted sequences are:",
   "",
   "  \\NNN            character with octal value NNN (1 to 3 octal digits)",
   "  \\\\              backslash",
   "  \\a              audible BEL",
   "  \\b              backspace",
   "  \\f              form feed",
   "  \\n              new line",
   "  \\r              return",
   "  \\t              horizontal tab",
   "  \\v              vertical tab",
   "  CHAR1-CHAR2     all characters from CHAR1 to CHAR2 in ascending order",
   "  [CHAR*]         in ARRAY2, copies of CHAR until length of ARRAY1",
   "  [CHAR*REPEAT]   REPEAT copies of CHAR, REPEAT octal if starting with 0",
   "  [:alnum:]       all letters and digits",
   "  [:alpha:]       all letters",
   "  [:blank:]       all horizontal whitespace",
   "  [:cntrl:]       all control characters",
   "  [:digit:]       all digits",
   "  [:graph:]       all printable characters, not including space",
   "  [:lower:]       all lower case letters",
   "  [:print:]       all printable characters, including space",
   "  [:punct:]       all punctuation characters",
   "  [:space:]       all horizontal or vertical whitespace",
   "  [:upper:]       all upper case letters",
   "  [:xdigit:]      all hexadecimal digits",
   "  [=CHAR=]        all characters which are equivalent to CHAR",
   "",
   "Translation occurs if -d is not given and both STRING1 and STRING2 appear.",
   "-t may be used only when translating.  ARRAY2 is extended to length of",
   "ARRAY1 by repeating its last character as necessary.  Excess characters",
   "of ARRAY2 are ignored.  Character classes expand in unspecified order;",
   "while translating, [:lower:] and [:upper:] may be used in pairs to",
   "specify case conversion.  Squeezing occurs after translation or deletion."] ++
  closingLines "tr"

def trueHelp (name : String) : List String :=
  ["Usage: " ++ name ++ " [ignored command line arguments]",
   "  or:  " ++ name ++ " OPTION",
   "Exit with a status code indicating success.",
   "",
   helpOptionLine,
   versionOptionLine,
   "",
   "NOTE: your shell may have its own version of true, which usually supersedes",
   "the version described here.  Please refer to your shell's documentation",
   "for details about the options it supports."] ++
  closingLines "true"

def uniqHelp (name : String) : List String :=
  ["Usage: " ++ name ++ " [OPTION]... [INPUT [OUTPUT]]",
   "Filter adjacent matching lines from INPUT (or standard input),",
   "writing to OUTPUT (or standard output).",
   "",
   "With no options, matching lines are merged to the first occurrence.",
   "",
   "Mandatory arguments to long options are mandatory for short options too.",
   "  -c, --count           prefix lines by the number of occurrences",
   "  -d, --repeated        only print duplicate lines, one for each group",
   "  -D                    print all duplicate lines",
   "      --all-repeated[=METHOD]  like -D, but allow separating groups",
   "                                 with an empty line;",
   "                                 METHOD=\x7bnone(default),prepend,separate\x7d",
   "  -f, --skip-fields=N   avoid comparing the first N fields",
   "      --group[=METHOD]  show all items, separating groups with an empty line;",
   "                          METHOD=\x7bseparate(default),prepend,append,both\x7d",
   "  -i, --ignore-case     ignore differences in case when comparing",
   "  -s, --skip-chars=N    avoid comparing the first N characters",
   "  -u, --unique          only print unique lines",
   "  -z, --zero-terminated     line delimiter is NUL, not newline",
   "  -w, --check-chars=N   compare no more than N characters in lines",
   helpOptionLine,
   versionOptionLine,
   "",
   "A field is a run of blanks (usually spaces and/or TABs), then non-blank",
   "characters.  Fields are skipped before chars.",
   "",
   "Note: 'uniq' does not detect repeated lines unless they are adjacent.",
   "You may want to sort the input first, or use 'sort -u' without 'uniq'."] ++
  closingLines "uniq"

def wcHelp (name : String) : List String :=
  ["Usage: " ++ name ++ " [OPTION]... [FILE]...",
   "  or:  " ++ name ++ " [OPTION]... --files0-from=F",
   "Print newline, word, and byte counts for each FILE, and a total line if",
   "more than one FILE is specified.  A word is a non-zero-length sequence of",
   "printable characters delimited by white space.",
   "",
   "With no FILE, or when FILE is -, read standard input.",
   "",
   "The options below may be used to select which counts are printed, always in",
   "the following order: newline, word, character, byte, maximum line length.",
   "  -c, --bytes            print the byte counts",
   "  -m, --chars            print the character counts",
   "  -l, --lines            print the newline counts",
   "      --files0-from=F    read input from the files specified by",
   "                           NUL-terminated names in file F;",
   "                           If F is - then read names from standard input",
   "  -L, --max-line-length  print the maximum display width",
   "  -w, --words            print the word counts",
   "      --total=WHEN       when to print a line with total counts;",
   "                           WHEN can be: auto, always, only, never",
   helpOptionLine,
   versionOptionLine] ++
  closingLines "wc"

def yesHelp (name : String) : List String :=
  ["Usage: " ++ name ++ " [STRING]...",
   "  or:  " ++ name ++ " OPTION",
   "Repeatedly output a line with all specified STRING(s), or 'y'.",
   "",
   helpOptionLine,
   versionOptionLine] ++
  closingLines "yes"

def basenameManual : Manual :=
  { name := "basename", help := basenameHelp }

def catManual : Manual :=
  { name := "cat", help := catHelp }

def cpManual : Manual :=
  { name := "cp", help := cpHelp }

def dirnameManual : Manual :=
  { name := "dirname", help := dirnameHelp }

def echoManual : Manual :=
  { name := "echo", help := echoHelp }

def envManual : Manual :=
  { name := "env", help := envHelp }

def falseManual : Manual :=
  { name := "false", help := falseHelp }

def headManual : Manual :=
  { name := "head", help := headHelp }

def lsManual : Manual :=
  { name := "ls", help := lsHelp }

def mkdirManual : Manual :=
  { name := "mkdir", help := mkdirHelp }

def mvManual : Manual :=
  { name := "mv", help := mvHelp }

def printfManual : Manual :=
  { name := "printf", help := printfHelp }

def pwdManual : Manual :=
  { name := "pwd", help := pwdHelp }

def rmManual : Manual :=
  { name := "rm", help := rmHelp }

def rmdirManual : Manual :=
  { name := "rmdir", help := rmdirHelp }

def seqManual : Manual :=
  { name := "seq", help := seqHelp }

def sleepManual : Manual :=
  { name := "sleep", help := sleepHelp }

def sortManual : Manual :=
  { name := "sort", help := sortHelp }

def tacManual : Manual :=
  { name := "tac", help := tacHelp }

def tailManual : Manual :=
  { name := "tail", help := tailHelp }

def teeManual : Manual :=
  { name := "tee", help := teeHelp }

def touchManual : Manual :=
  { name := "touch", help := touchHelp }

def trManual : Manual :=
  { name := "tr", help := trHelp }

def trueManual : Manual :=
  { name := "true", help := trueHelp }

def uniqManual : Manual :=
  { name := "uniq", help := uniqHelp }

def wcManual : Manual :=
  { name := "wc", help := wcHelp }

def yesManual : Manual :=
  { name := "yes", help := yesHelp }

end Pipework.Tools
