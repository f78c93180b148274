import WhisperLinux.Python.Unicode
import WhisperLinux.Python.Text
import WhisperLinux.Python.Words
import WhisperLinux.Python.Lower
import WhisperLinux.Python.Difflib
import WhisperLinux.Commands
import WhisperLinux.Commands.Trace
import WhisperLinux.Transcriber.WakeWord
import WhisperLinux.Audio.Vad
import WhisperLinux.Audio.VadSegments
import WhisperLinux.Audio.Frames
import WhisperLinux.Audio.Wav
import WhisperLinux.App.Basic
import WhisperLinux.App.Coordinator
import WhisperLinux.App.Events
import WhisperLinux.App.Threads
import WhisperLinux.App.Table
import WhisperLinux.App.Coherence
import WhisperLinux.App.Refinement
import WhisperLinux.App.Output
import WhisperLinux.App.Queues
import WhisperLinux.Python.ConfigParser
import WhisperLinux.Python.ConfigRoundTrip
import WhisperLinux.Python.ConfigInvariant
import WhisperLinux.Python.Regex
import WhisperLinux.Config
import WhisperLinux.Config.RoundTrip
import WhisperLinux.Transcriber.Hallucination
import WhisperLinux.Injector
import WhisperLinux.PidFile
