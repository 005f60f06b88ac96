/-
  This file holds the texts with which the program explains
  itself.

  Key definitions include:
    * `programName`
    * `usageText`
    * `helpText`
-/

------------------------------------------------------------
-- Help
------------------------------------------------------------

namespace ProseCheck

/- The name of the program. -/
def programName : String :=
  "languagetool-ls"

/- How the program is started. -/
def usageText : String :=
  "usage: languagetool-ls [-h] [--stdio] " ++
    "[--language LANGUAGE]\n" ++
  "                       " ++
    "[--remote-server REMOTE_SERVER] " ++
    "[--log-file LOG_FILE]\n" ++
  "                       [-v]\n" ++
  "                       [port] [host]\n"

/- What the arguments mean that are no options. -/
def argumentHelp : String :=
  "positional arguments:\n" ++
  "  port                  TCP port to listen on " ++
    "(default: env\n" ++
  "                        LANGUAGETOOL_LS_PORT or 8081)\n" ++
  "  host                  Host to bind (default: env " ++
    "LANGUAGETOOL_LS_HOST or\n" ++
  "                        localhost)\n"

/- What the options mean. -/
def optionHelp : String :=
  "options:\n" ++
  "  -h, --help            show this help message and exit\n" ++
  "  --stdio               Serve over stdin/stdout instead " ++
    "of TCP\n" ++
  "  --language LANGUAGE   Language code to check with until " ++
    "the client sends its\n" ++
  "                        configuration (default: env " ++
    "LANGUAGETOOL_LS_LANGUAGE;\n" ++
  "                        checking is disabled when unset)\n" ++
  "  --remote-server REMOTE_SERVER\n" ++
  "                        URL of a running LanguageTool " ++
    "server to use instead of\n" ++
  "                        starting one (default: env\n" ++
  "                        LANGUAGETOOL_LS_REMOTE_SERVER)\n" ++
  "  --log-file LOG_FILE   Write logs to this file instead " ++
    "of stderr\n" ++
  "  -v, --verbose         Enable debug logging\n"

/- The help that the program gives. -/
def helpText : String :=
  usageText ++ "\n" ++
  "Serve LanguageTool grammar and style checks over the " ++
    "Language Server Protocol.\n\n" ++
  argumentHelp ++ "\n" ++ optionHelp

end ProseCheck
