import Marquee.Directory
import Marquee.Invocation.Arguments
import Marquee.Log.Filter
import Marquee.Report

/-! The program as a whole: from the words on its command line and its environment to what it leaves
behind. -/

namespace Marquee
namespace Program

def version : String := "betabrite 0.1.0\n"

def help : String :=
  "Send messages and commands to a BetaBrite / Alpha LED sign\n\n" ++
  "Usage: betabrite [OPTIONS] [DATA]...\n\n" ++
  "Arguments:\n" ++
  "  [DATA]...  Message words, string fragments or special function data\n\n" ++
  "Options:\n" ++
  "      --mode <MODE>            What the data arguments encode [default: text]\n" ++
  "                               [text, string, setdate, settime, setsequence, " ++
  "setday, cfgmem]\n" ++
  "      --label <LABEL>          TEXT or STRING file label [default: A]\n" ++
  "      --raw                    Send the data arguments verbatim as the payload\n" ++
  "      --runseq                 Release a sign stuck on the priority message\n" ++
  "      --clear                  Clear every TEXT and STRING file\n" ++
  "      --reset                  Soft reset the sign\n" ++
  "      --dump                   Print the framed bytes as hex instead of sending them\n" ++
  "      --address <ADDRESS>      Sign address, two characters of 0-9, A-F or ?\n" ++
  "      --sign-type <SIGN_TYPE>  Sign type name or code character\n" ++
  "      --delay-us <DELAY_US>    Minimum gap between bytes on the link, in microseconds\n" ++
  "  -c, --config <CONFIG>        Configuration file\n" ++
  "  -v, --verbose...             More logging (-v info, -vv debug)\n" ++
  "  -h, --help                   Print help\n" ++
  "  -V, --version                Print version\n"

end Program

/-- How the program ends if it does not get as far as a run. -/
def Stop.exit : Stop → Nat
  | .fault _ => 2
  | _ => 0

def Stop.output : Stop → String
  | .help => Program.help
  | .version => Program.version
  | .fault _ => ""

namespace Program

structure Ending where
  exit : Nat
  output : Bytes := []
  report : Option String := none
  logs : List Entry := []

/-- A run in a directory, and the directory after it. -/
def runIn (directory : Directory) (words : List String) (environment : Option String) :
    Ending × Directory :=
  match Invocation.parse words with
  | .error stop => ({ exit := stop.exit, output := utf8 stop.output }, directory)
  | .ok invocation =>
    let outcome := Session.run directory.host invocation
    let filter := Filter.choose invocation.verbosity environment
    let (shown, after) := match outcome.sent with
      | some (target, sent) => directory.receive target sent.state.held.taken
      | none => ([], directory)
    ({ exit := outcome.exit
       output := utf8 outcome.printed ++ shown
       report := outcome.failure.map fun failure => Report.render failure.chain
       logs := outcome.logs.filter filter.shows },
      after)

end Program
end Marquee
