/-! The explanation of the command line. -/

namespace ChipEight

/-- The lines that explain the command line to a caller, each option over its description. -/
def helpLines : List String := [
  "Run a CHIP-8 ROM without a window and print the final screen",
  "",
  "Usage: chip8 [OPTIONS] <ROM>",
  "",
  "Arguments:",
  "  <ROM>  Path of the ROM to run",
  "",
  "Options:",
  "      --hex",
  "          Read the ROM as whitespace separated hex text instead of raw bytes",
  "      --steps-per-tick <STEPS_PER_TICK>",
  "          Instructions executed on every host tick [default: 10]",
  "      --tick-rate <TICK_RATE>",
  "          Host ticks per second [default: 60]",
  "      --ticks <TICKS>",
  "          Ticks to run before printing the screen, 0 runs until the program stalls " ++
    "[default: 120]",
  "      --keys <KEYS>",
  "          Comma separated keys (hex digits 0-F) held down for the whole run",
  "      --log-level <LOG_LEVEL>",
  "          One of off, error, warn, info, debug or trace [default: info]",
  "  -h, --help",
  "          Print help",
  "  -V, --version",
  "          Print version"]

end ChipEight
