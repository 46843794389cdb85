import LogHarvest.Text.Table.NameRun

/-!
# Names: the scripts of East Asia
-/

namespace LogHarvest.Text.Table

def eastAsianNames : List NameRun := [
  ⟨0x2E00, [
    "aRIGHT ANGLE SUBSTITUTION MARKERcDOTTED SUBSTITUTION MARKERaLEFT SUBSTITUTION BRACKET",
    "aRIGHT SUBSTITUTION BRACKETaLEFT DOTTED SUBSTITUTION BRACKET",
    "aRIGHT DOTTED SUBSTITUTION BRACKETaRAISED INTERPOLATION MARKERbDOTTED INTERPOLATION MARKER",
    "aDOTTED TRANSPOSITION MARKERaLEFT TRANSPOSITION BRACKETaRIGHT TRANSPOSITION BRACKET",
    "aRAISED SQUAREaLEFT RAISED OMISSION BRACKETaRIGHT RAISED OMISSION BRACKETaEDITORIAL CORONIS",
    "aPARAGRAPHOSaFORKED PARAGRAPHOSaREVERSED FORKED PARAGRAPHOSaHYPODIASTOLEaDOTTED OBELOS",
    "aDOWNWARDS ANCORAaUPWARDS ANCORAaDOTTED RIGHT-POINTING ANGLEaDOUBLE OBLIQUE HYPHEN",
    "aINVERTED INTERROBANGaPALM BRANCHaHYPHEN WITH DIAERESISaTILDE WITH RING ABOVE",
    "aLEFT LOW PARAPHRASE BRACKETaRIGHT LOW PARAPHRASE BRACKETaTILDE WITH DOT ABOVEdBELOW",
    "aLEFT VERTICAL BAR WITH QUILLaRIGHT VERTICAL BAR WITH QUILLaTOP LEFT HALF BRACKET",
    "bRIGHT HALF BRACKETaBOTTOM LEFT HALF BRACKETbRIGHT HALF BRACKETaLEFT SIDEWAYS U BRACKET",
    "aRIGHT SIDEWAYS U BRACKETaLEFT DOUBLE PARENTHESISaRIGHT DOUBLE PARENTHESIS",
    "aTWO DOTS OVER ONE DOT PUNCTUATIONaONE DOT OVER TWO DOTS PUNCTUATION",
    "aSQUARED FOUR DOT PUNCTUATIONaFIVE DOT MARKaREVERSED QUESTION MARKaVERTICAL TILDE",
    "aRING POINTaWORD SEPARATOR MIDDLE DOTaTURNED COMMAaRAISED DOTbCOMMAaTURNED SEMICOLON",
    "aDAGGER WITH LEFT GUARDcRIGHT GUARDaTURNED DAGGERaTOP HALF SECTION SIGNaTWO-EM DASH",
    "aTHREE-EM DASHaSTENOGRAPHIC FULL STOPaVERTICAL SIX DOTSaWIGGLY VERTICAL LINEaCAPITULUM",
    "aDOUBLE HYPHENaREVERSED COMMAaDOUBLE LOW-REVERSED-9 QUOTATION MARKaDASH WITH LEFT UPTURN",
    "aDOUBLE SUSPENSION MARKaINVERTED LOW KAVYKAcKAVYKA WITH KAVYKA ABOVEaLOW KAVYKA",
    "bKAVYKA WITH DOTaDOUBLE STACKED COMMAaDOTTED SOLIDUSaTRIPLE DAGGERaMEDIEVAL COMMA",
    "aPARAGRAPHUS MARKaPUNCTUS ELEVATUS MARKaCORNISH VERSE DIVIDER",
    "aCROSS PATTY WITH RIGHT CROSSBARdLEFT CROSSBARaTIRONIAN SIGN CAPITAL ET",
    "aMEDIEVAL EXCLAMATION MARKbQUESTION MARKaLEFT SQUARE BRACKET WITH STROKE",
    "aRIGHT SQUARE BRACKET WITH STROKEaLEFT SQUARE BRACKET WITH DOUBLE STROKE",
    "aRIGHT SQUARE BRACKET WITH DOUBLE STROKEaTOP HALF LEFT PARENTHESIScRIGHT PARENTHESIS",
    "aBOTTOM HALF LEFT PARENTHESIScRIGHT PARENTHESISaOBLIQUE HYPHEN"]⟩,
  ⟨0x2E80, [
    "aCJK RADICAL REPEATcCLIFFcSECOND ONEdTWOdTHREEcPERSONcBOXcTABLEcKNIFE ONEdTWOcDIVINATION",
    "cSEALcSMALL ONEdTWOcLAME ONEdTWOdTHREEdFOURcSNAKEcTHREADcSNOUT ONEdTWOcHEART ONEdTWOcHAND",
    "cRAP.cCHOKEcSUNcMOONcDEATHcMOTHERcCIVILIANcWATER ONEdTWOcFIREcPAW ONEdTWO",
    "cSIMPLIFIED HALF TREE TRUNKcCOWcDOGcJADEcBOLT OF CLOTHcEYEcSPIRIT ONEdTWOcBAMBOOcSILK",
    "cC-SIMPLIFIED SILKcNET ONEdTWOdTHREEdFOURcMESHcSHEEPcRAMcEWEcOLDcBRUSH ONEdTWOcMEATcMORTAR",
    "cGRASS ONEdTWOdTHREEcTIGERcCLOTHEScWEST ONEdTWOcC-SIMPLIFIED SEEcSIMPLIFIED HORNcHORN",
    "cC-SIMPLIFIED SPEECHeSHELLcFOOTcC-SIMPLIFIED CARTcSIMPLIFIED WALKcWALK ONEdTWOcCITY",
    "cC-SIMPLIFIED GOLDcLONG ONEdTWOcC-SIMPLIFIED LONGeGATEcMOUND ONEdTWOcRAINcBLUE",
    "cC-SIMPLIFIED TANNED LEATHEReLEAFeWINDeFLYcEAT ONEdTWOdTHREEcC-SIMPLIFIED EATcHEAD",
    "cC-SIMPLIFIED HORSEcBONEcGHOSTcC-SIMPLIFIED FISHeBIRDeSALTcSIMPLIFIED WHEATdYELLOW",
    "cC-SIMPLIFIED FROGcJ-SIMPLIFIED EVENcC-SIMPLIFIED EVENcJ-SIMPLIFIED TOOTH",
    "cC-SIMPLIFIED TOOTHcJ-SIMPLIFIED DRAGONcC-SIMPLIFIED DRAGONcTURTLEcJ-SIMPLIFIED TURTLE",
    "cC-SIMPLIFIED TURTLE"]⟩,
  ⟨0x2F00, [
    "aKANGXI RADICAL ONEcLINEcDOTcSLASHcSECONDcHOOKcTWOcLIDcMANcLEGScENTERcEIGHTcDOWN BOXcCOVER",
    "cICEcTABLEcOPEN BOXcKNIFEcPOWERcWRAPcSPOONcRIGHT OPEN BOXcHIDING ENCLOSUREcTENcDIVINATION",
    "cSEALcCLIFFcPRIVATEcAGAINcMOUTHcENCLOSUREcEARTHcSCHOLARcGOcGO SLOWLYcEVENINGcBIGcWOMAN",
    "cCHILDcROOFcINCHcSMALLcLAMEcCORPSEcSPROUTcMOUNTAINcRIVERcWORKcONESELFcTURBANcDRY",
    "cSHORT THREADcDOTTED CLIFFcLONG STRIDEcTWO HANDScSHOOTcBOWcSNOUTcBRISTLEcSTEPcHEARTcHALBERD",
    "cDOORcHANDcBRANCHcRAPcSCRIPTcDIPPERcAXEcSQUAREcNOTcSUNcSAYcMOONcTREEcLACKcSTOPcDEATHcWEAPON",
    "cDO NOTcCOMPAREcFURcCLANcSTEAMcWATERcFIREcCLAWcFATHERcDOUBLE XcHALF TREE TRUNKcSLICEcFANG",
    "cCOWcDOGcPROFOUNDcJADEcMELONcTILEcSWEETcLIFEcUSEcFIELDcBOLT OF CLOTHcSICKNESScDOTTED TENT",
    "cWHITEcSKINcDISHcEYEcSPEARcARROWcSTONEcSPIRITcTRACKcGRAINcCAVEcSTANDcBAMBOOcRICEcSILKcJAR",
    "cNETcSHEEPcFEATHERcOLDcANDcPLOWcEARcBRUSHcMEATcMINISTERcSELFcARRIVEcMORTARcTONGUEcOPPOSE",
    "cBOATcSTOPPINGcCOLORcGRASScTIGERcINSECTcBLOODcWALK ENCLOSUREcCLOTHEScWESTcSEEcHORNcSPEECH",
    "cVALLEYcBEANcPIGcBADGERcSHELLcREDcRUNcFOOTcBODYcCARTcBITTERcMORNINGcWALKcCITYcWINE",
    "cDISTINGUISHcVILLAGEcGOLDcLONGcGATEcMOUNDcSLAVEcSHORT TAILED BIRDcRAINcBLUEcWRONGcFACE",
    "cLEATHERcTANNED LEATHERcLEEKcSOUNDcLEAFcWINDcFLYcEATcHEADcFRAGRANTcHORSEcBONEcTALLcHAIR",
    "cFIGHTcSACRIFICIAL WINEcCAULDRONcGHOSTcFISHcBIRDcSALTcDEERcWHEATcHEMPcYELLOWcMILLETcBLACK",
    "cEMBROIDERYcFROGcTRIPODcDRUMcRATcNOSEcEVENcTOOTHcDRAGONcTURTLEcFLUTE"]⟩,
  ⟨0x2FF0, [
    "aIDEOGRAPHIC DESCRIPTION CHARACTER LEFT TO RIGHTdABOVE TO BELOWdLEFT TO MIDDLE AND RIGHT",
    "dABOVE TO MIDDLE AND BELOWdFULL SURROUNDdSURROUND FROM ABOVEfBELOWfLEFTfUPPER LEFTgRIGHT",
    "fLOWER LEFTdOVERLAID"]⟩,
  ⟨0x3000, [
    "aIDEOGRAPHIC SPACEbCOMMAbFULL STOPaDITTO MARKaJAPANESE INDUSTRIAL STANDARD SYMBOL",
    "aIDEOGRAPHIC ITERATION MARKbCLOSING MARKbNUMBER ZEROaLEFT ANGLE BRACKETaRIGHT ANGLE BRACKET",
    "aLEFT DOUBLE ANGLE BRACKETaRIGHT DOUBLE ANGLE BRACKETaLEFT CORNER BRACKET",
    "aRIGHT CORNER BRACKETaLEFT WHITE CORNER BRACKETaRIGHT WHITE CORNER BRACKET",
    "aLEFT BLACK LENTICULAR BRACKETaRIGHT BLACK LENTICULAR BRACKETaPOSTAL MARKaGETA MARK",
    "aLEFT TORTOISE SHELL BRACKETaRIGHT TORTOISE SHELL BRACKETaLEFT WHITE LENTICULAR BRACKET",
    "aRIGHT WHITE LENTICULAR BRACKETaLEFT WHITE TORTOISE SHELL BRACKET",
    "aRIGHT WHITE TORTOISE SHELL BRACKETaLEFT WHITE SQUARE BRACKETaRIGHT WHITE SQUARE BRACKET",
    "aWAVE DASHaREVERSED DOUBLE PRIME QUOTATION MARKaDOUBLE PRIME QUOTATION MARK",
    "aLOW DOUBLE PRIME QUOTATION MARKaPOSTAL MARK FACEaHANGZHOU NUMERAL ONEcTWOcTHREEcFOURcFIVE",
    "cSIXcSEVENcEIGHTcNINEaIDEOGRAPHIC LEVEL TONE MARKbRISING TONE MARKbDEPARTING TONE MARK",
    "bENTERING TONE MARKaHANGUL SINGLE DOT TONE MARKbDOUBLE DOT TONE MARKaWAVY DASH",
    "aVERTICAL KANA REPEAT MARKdWITH VOICED SOUND MARKdMARK UPPER HALF",
    "dWITH VOICED SOUND MARK UPPER HALFdMARK LOWER HALFaCIRCLED POSTAL MARK",
    "aIDEOGRAPHIC TELEGRAPH LINE FEED SEPARATOR SYMBOLaHANGZHOU NUMERAL TENcTWENTYcTHIRTY",
    "aVERTICAL IDEOGRAPHIC ITERATION MARKaMASU MARKaPART ALTERNATION MARK",
    "aIDEOGRAPHIC VARIATION INDICATORbHALF FILL SPACE.aHIRAGANA LETTER SMALL AcAcSMALL IcI",
    "cSMALL UcUcSMALL EcEcSMALL OcOcKAcGAcKIcGIcKUcGUcKEcGEcKOcGOcSAcZAcSIcZIcSUcZUcSEcZEcSOcZO",
    "cTAcDAcTIcDIcSMALL TUcTUcDUcTEcDEcTOcDOcNAcNIcNUcNEcNOcHAcBAcPAcHIcBIcPIcHUcBUcPUcHEcBEcPE",
    "cHOcBOcPOcMAcMIcMUcMEcMOcSMALL YAcYAcSMALL YUcYUcSMALL YOcYOcRAcRIcRUcREcROcSMALL WAcWAcWI",
    "cWEcWOcNcVUcSMALL KAdKE..aCOMBINING KATAKANA-HIRAGANA VOICED SOUND MARK",
    "dSEMI-VOICED SOUND MARKaKATAKANA-HIRAGANA VOICED SOUND MARKcSEMI-VOICED SOUND MARK",
    "aHIRAGANA ITERATION MARKbVOICED ITERATION MARKbDIGRAPH YORIaKATAKANA-HIRAGANA DOUBLE HYPHEN",
    "aKATAKANA LETTER SMALL AcAcSMALL IcIcSMALL UcUcSMALL EcEcSMALL OcOcKAcGAcKIcGIcKUcGUcKEcGE",
    "cKOcGOcSAcZAcSIcZIcSUcZUcSEcZEcSOcZOcTAcDAcTIcDIcSMALL TUcTUcDUcTEcDEcTOcDOcNAcNIcNUcNEcNO",
    "cHAcBAcPAcHIcBIcPIcHUcBUcPUcHEcBEcPEcHOcBOcPOcMAcMIcMUcMEcMOcSMALL YAcYAcSMALL YUcYU",
    "cSMALL YOcYOcRAcRIcRUcREcROcSMALL WAcWAcWIcWEcWOcNcVUcSMALL KAdKEcVAcVIcVEcVObMIDDLE DOT",
    "aKATAKANA-HIRAGANA PROLONGED SOUND MARKaKATAKANA ITERATION MARKbVOICED ITERATION MARK",
    "bDIGRAPH KOTO"]⟩,
  ⟨0x3105, [
    "aBOPOMOFO LETTER BcPcMcFcDcTcNcLcGcKcHcJcQcXcZHcCHcSHcRcZcCcScAcOcEcEHcAIcEIcAUcOUcANcEN",
    "cANGcENGcERcIcUcIUcVcNGcGNcIHcO WITH DOT ABOVEcNN.aHANGUL LETTER KIYEOKcSSANGKIYEOK",
    "cKIYEOK-SIOScNIEUNcNIEUN-CIEUCdHIEUHcTIKEUTcSSANGTIKEUTcRIEULcRIEUL-KIYEOKdMIEUMdPIEUPdSIOS",
    "dTHIEUTHdPHIEUPHdHIEUHcMIEUMcPIEUPcSSANGPIEUPcPIEUP-SIOScSIOScSSANGSIOScIEUNGcCIEUC",
    "cSSANGCIEUCcCHIEUCHcKHIEUKHcTHIEUTHcPHIEUPHcHIEUHcAcAEcYAcYAEcEOcEcYEOcYEcOcWAcWAEcOEcYOcU",
    "cWEOcWEcWIcYUcEUcYIcIbFILLERbLETTER SSANGNIEUNcNIEUN-TIKEUTdSIOSdPANSIOScRIEUL-KIYEOK-SIOS",
    "dTIKEUTdPIEUP-SIOSdPANSIOSdYEORINHIEUHcMIEUM-PIEUPdSIOSdPANSIOScKAPYEOUNMIEUMcPIEUP-KIYEOK",
    "dTIKEUTdSIOS-KIYEOKeTIKEUTdCIEUCdTHIEUTHcKAPYEOUNPIEUPcKAPYEOUNSSANGPIEUPcSIOS-KIYEOKdNIEUN",
    "dTIKEUTdPIEUPdCIEUCcPANSIOScSSANGIEUNGcYESIEUNGcYESIEUNG-SIOSdPANSIOScKAPYEOUNPHIEUPH",
    "cSSANGHIEUHcYEORINHIEUHcYO-YAdYAEdIcYU-YEOdYEdIcARAEAcARAEAE.",
    "aIDEOGRAPHIC ANNOTATION LINKING MARKcREVERSE MARKcONE MARKcTWO MARKcTHREE MARKcFOUR MARK",
    "cTOP MARKcMIDDLE MARKcBOTTOM MARKcFIRST MARKcSECOND MARKcTHIRD MARKcFOURTH MARKcHEAVEN MARK",
    "cEARTH MARKcMAN MARKaBOPOMOFO LETTER BUcZIcJIcGUcEEcENNcOOcONNcIRcANNcINNcUNNcIMcNGGcAINN",
    "cAUNNcAMcOMcONGcINNNbFINAL LETTER PdTdKdHbLETTER GHcLHcZYbFINAL LETTER GbLETTER GWcKWcOEcAH",
    "aCJK STROKE TcWGcXGcBXGcSWcHZZcHZGcHPcHZWGcSZWGcHZTcHZZPcHPWGcHZWcHZZZcNcHcScPcSPcDcHZcHG",
    "cSZcSWZcSTcSGcPDcPZcTNcSZZcSWGcHXWGcHZZZGcPGcQ............aKATAKANA LETTER SMALL KUdSIdSU",
    "dTOdNUdHAdHIdHUdHEdHOdMUdRAdRIdRUdREdRO"]⟩,
  ⟨0x3200, [
    "aPARENTHESIZED HANGUL KIYEOKcNIEUNcTIKEUTcRIEULcMIEUMcPIEUPcSIOScIEUNGcCIEUCcCHIEUCH",
    "cKHIEUKHcTHIEUTHcPHIEUPHcHIEUHcKIYEOK AcNIEUN AcTIKEUT AcRIEUL AcMIEUM AcPIEUP AcSIOS A",
    "cIEUNG AcCIEUC AcCHIEUCH AcKHIEUKH AcTHIEUTH AcPHIEUPH AcHIEUH AcCIEUC U",
    "bKOREAN CHARACTER OJEONdO HU.bIDEOGRAPH ONEcTWOcTHREEcFOURcFIVEcSIXcSEVENcEIGHTcNINEcTEN",
    "cMOONcFIREcWATERcWOODcMETALcEARTHcSUNcSTOCKcHAVEcSOCIETYcNAMEcSPECIALcFINANCIAL",
    "cCONGRATULATIONcLABORcREPRESENTcCALLcSTUDYcSUPERVISEcENTERPRISEcRESOURCEcALLIANCEcFESTIVAL",
    "cRESTcSELFcREACHaCIRCLED IDEOGRAPH QUESTIONcKINDERGARTENcSCHOOLcKOTO",
    "bNUMBER TEN ON BLACK SQUAREcTWENTY ON BLACK SQUAREcTHIRTY ON BLACK SQUARE",
    "cFORTY ON BLACK SQUAREcFIFTY ON BLACK SQUAREcSIXTY ON BLACK SQUAREcSEVENTY ON BLACK SQUARE",
    "cEIGHTY ON BLACK SQUAREaPARTNERSHIP SIGNaCIRCLED NUMBER TWENTY ONEdTWOdTHREEdFOURdFIVEdSIX",
    "dSEVENdEIGHTdNINEcTHIRTYcTHIRTY ONEdTWOdTHREEdFOURdFIVEbHANGUL KIYEOKcNIEUNcTIKEUTcRIEUL",
    "cMIEUMcPIEUPcSIOScIEUNGcCIEUCcCHIEUCHcKHIEUKHcTHIEUTHcPHIEUPHcHIEUHcKIYEOK AcNIEUN A",
    "cTIKEUT AcRIEUL AcMIEUM AcPIEUP AcSIOS AcIEUNG AcCIEUC AcCHIEUCH AcKHIEUKH AcTHIEUTH A",
    "cPHIEUPH AcHIEUH AbKOREAN CHARACTER CHAMKOdJUEUIbHANGUL IEUNG UaKOREAN STANDARD SYMBOL",
    "aCIRCLED IDEOGRAPH ONEcTWOcTHREEcFOURcFIVEcSIXcSEVENcEIGHTcNINEcTENcMOONcFIREcWATERcWOOD",
    "cMETALcEARTHcSUNcSTOCKcHAVEcSOCIETYcNAMEcSPECIALcFINANCIALcCONGRATULATIONcLABORcSECRETcMALE",
    "cFEMALEcSUITABLEcEXCELLENTcPRINTcATTENTIONcITEMcRESTcCOPYcCORRECTcHIGHcCENTREcLOWcLEFT",
    "cRIGHTcMEDICINEcRELIGIONcSTUDYcSUPERVISEcENTERPRISEcRESOURCEcALLIANCEcNIGHT",
    "bNUMBER THIRTY SIXdSEVENdEIGHTdNINEcFORTYcFORTY ONEdTWOdTHREEdFOURdFIVEdSIXdSEVENdEIGHT",
    "dNINEcFIFTYaIDEOGRAPHIC TELEGRAPH SYMBOL FOR JANUARYeFEBRUARYeMARCHeAPRILeMAYeJUNEeJULY",
    "eAUGUSTeSEPTEMBEReOCTOBEReNOVEMBEReDECEMBERaSQUARE HGbERGbEVaLIMITED LIABILITY SIGN",
    "aCIRCLED KATAKANA AcIcUcEcOcKAcKIcKUcKEcKOcSAcSIcSUcSEcSOcTAcTIcTUcTEcTOcNAcNIcNUcNEcNOcHA",
    "cHIcHUcHEcHOcMAcMIcMUcMEcMOcYAcYUcYOcRAcRIcRUcREcROcWAcWIcWEcWOaSQUARE ERA NAME REIWA"]⟩,
  ⟨0x3300, [
    "aSQUARE APAATObARUHUAbANPEAbAARUbININGUbINTIbUONbESUKUUDObEEKAAbONSUbOOMUbKAIRIbKARATTO",
    "bKARORIIbGARONbGANMAbGIGAbGINIIbKYURIIbGIRUDAAbKIRObKIROGURAMUbKIROMEETORUbKIROWATTObGURAMU",
    "bGURAMUTONbKURUZEIRObKUROONEbKEESUbKORUNAbKOOPObSAIKURUbSANTIIMUbSIRINGUbSENTIbSENTObDAASU",
    "bDESIbDORUbTONbNANObNOTTObHAITUbPAASENTObPAATUbBAARERUbPIASUTORUbPIKURUbPIKObBIRUbHUARADDO",
    "bHUIITObBUSSYERUbHURANbHEKUTAARUbPESObPENIHIbHERUTUbPENSUbPEEZIbBEETAbPOINTObBORUTObHON",
    "bPONDObHOORUbHOONbMAIKURObMAIRUbMAHHAbMARUKUbMANSYONbMIKURONbMIRIbMIRIBAARUbMEGAbMEGATON",
    "bMEETORUbYAADObYAARUbYUANbRITTORUbRIRAbRUPIIbRUUBURUbREMUbRENTOGENbWATTO",
    "aIDEOGRAPHIC TELEGRAPH SYMBOL FOR HOUR ZEROfONEfTWOfTHREEfFOURfFIVEfSIXfSEVENfEIGHTfNINE",
    "fTENfELEVENfTWELVEfTHIRTEENfFOURTEENfFIFTEENfSIXTEENfSEVENTEENfEIGHTEENfNINETEENfTWENTY",
    "fTWENTY-ONEgTWOgTHREEgFOURaSQUARE HPAbDAbAUbBARbOVbPCbDMbDM SQUAREDcCUBEDbIU",
    "bERA NAME HEISEIdSYOUWAdTAISYOUdMEIZIbCORPORATIONbPA AMPSbNAbMU AbMAbKAbKBbMBbGBbCALbKCAL",
    "bPFbNFbMU FcGbMGbKGbHZbKHZbMHZbGHZbTHZbMU LbMLbDLbKLbFMbNMbMU MbMMbCMbKMbMM SQUARED",
    "bCM SQUAREDbM SQUAREDbKM SQUAREDbMM CUBEDbCM CUBEDbM CUBEDbKM CUBEDbM OVER SdS SQUAREDbPA",
    "bKPAbMPAbGPAbRADbRAD OVER SdS SQUAREDbPSbNSbMU SbMSbPVbNVbMU VbMVbKVbMV MEGAbPWbNWbMU WbMW",
    "bKWbMW MEGAbK OHMbM OHMbAMbBQbCCbCDbC OVER KGbCObDBbGYbHAbHPbINbKKbKM CAPITALbKTbLMbLNbLOG",
    "bLXbMB SMALLbMILbMOLbPHbPMbPPMbPRbSRbSVbWBbV OVER MbA OVER M",
    "aIDEOGRAPHIC TELEGRAPH SYMBOL FOR DAY ONEfTWOfTHREEfFOURfFIVEfSIXfSEVENfEIGHTfNINEfTEN",
    "fELEVENfTWELVEfTHIRTEENfFOURTEENfFIFTEENfSIXTEENfSEVENTEENfEIGHTEENfNINETEENfTWENTY",
    "fTWENTY-ONEgTWOgTHREEgFOURgFIVEgSIXgSEVENgEIGHTgNINEfTHIRTYfTHIRTY-ONEaSQUARE GAL"]⟩,
  ⟨0x4DC0, [
    "aHEXAGRAM FOR THE CREATIVE HEAVENdRECEPTIVE EARTHcDIFFICULTY AT THE BEGINNING",
    "cYOUTHFUL FOLLYcWAITINGcCONFLICTcTHE ARMYcHOLDING TOGETHERcSMALL TAMINGcTREADINGcPEACE",
    "cSTANDSTILLcFELLOWSHIPcGREAT POSSESSIONcMODESTYcENTHUSIASMcFOLLOWINGcWORK ON THE DECAYED",
    "cAPPROACHcCONTEMPLATIONcBITING THROUGHcGRACEcSPLITTING APARTcRETURNcINNOCENCEcGREAT TAMING",
    "cMOUTH CORNERScGREAT PREPONDERANCEcTHE ABYSMAL WATERdCLINGING FIREcINFLUENCEcDURATION",
    "cRETREATcGREAT POWERcPROGRESScDARKENING OF THE LIGHTcTHE FAMILYcOPPOSITIONcOBSTRUCTION",
    "cDELIVERANCEcDECREASEcINCREASEcBREAKTHROUGHcCOMING TO MEETcGATHERING TOGETHER",
    "cPUSHING UPWARDcOPPRESSIONcTHE WELLcREVOLUTIONcTHE CAULDRONdAROUSING THUNDER",
    "dKEEPING STILL MOUNTAINcDEVELOPMENTcTHE MARRYING MAIDENcABUNDANCEcTHE WANDERERdGENTLE WIND",
    "dJOYOUS LAKEcDISPERSIONcLIMITATIONcINNER TRUTHcSMALL PREPONDERANCEcAFTER COMPLETION",
    "cBEFORE COMPLETION"]⟩,
  ⟨0xA000, [
    "aYI SYLLABLE ITcIXcIcIPcIETcIEXcIEcIEPcATcAXcAcAPcUOXcUOcUOPcOTcOXcOcOPcEXcEcWUcBITcBIXcBI",
    "cBIPcBIETcBIEXcBIEcBIEPcBATcBAXcBAcBAPcBUOXcBUOcBUOPcBOTcBOXcBOcBOPcBEXcBEcBEPcBUTcBUXcBU",
    "cBUPcBURXcBURcBYTcBYXcBYcBYPcBYRXcBYRcPITcPIXcPIcPIPcPIEXcPIEcPIEPcPATcPAXcPAcPAPcPUOXcPUO",
    "cPUOPcPOTcPOXcPOcPOPcPUTcPUXcPUcPUPcPURXcPURcPYTcPYXcPYcPYPcPYRXcPYRcBBITcBBIXcBBIcBBIP",
    "cBBIETcBBIEXcBBIEcBBIEPcBBATcBBAXcBBAcBBAPcBBUOXcBBUOcBBUOPcBBOTcBBOXcBBOcBBOPcBBEXcBBE",
    "cBBEPcBBUTcBBUXcBBUcBBUPcBBURXcBBURcBBYTcBBYXcBBYcBBYPcNBITcNBIXcNBIcNBIPcNBIEXcNBIEcNBIEP",
    "cNBATcNBAXcNBAcNBAPcNBOTcNBOXcNBOcNBOPcNBUTcNBUXcNBUcNBUPcNBURXcNBURcNBYTcNBYXcNBYcNBYP",
    "cNBYRXcNBYRcHMITcHMIXcHMIcHMIPcHMIEXcHMIEcHMIEPcHMATcHMAXcHMAcHMAPcHMUOXcHMUOcHMUOPcHMOT",
    "cHMOXcHMOcHMOPcHMUTcHMUXcHMUcHMUPcHMURXcHMURcHMYXcHMYcHMYPcHMYRXcHMYRcMITcMIXcMIcMIPcMIEX",
    "cMIEcMIEPcMATcMAXcMAcMAPcMUOTcMUOXcMUOcMUOPcMOTcMOXcMOcMOPcMEXcMEcMUTcMUXcMUcMUPcMURXcMUR",
    "cMYTcMYXcMYcMYPcFITcFIXcFIcFIPcFATcFAXcFAcFAPcFOXcFOcFOPcFUTcFUXcFUcFUPcFURXcFURcFYTcFYXcFY",
    "cFYPcVITcVIXcVIcVIPcVIETcVIEXcVIEcVIEPcVATcVAXcVAcVAPcVOTcVOXcVOcVOPcVEXcVEPcVUTcVUXcVUcVUP",
    "cVURXcVURcVYTcVYXcVYcVYPcVYRXcVYR"]⟩,
  ⟨0xA100, [
    "aYI SYLLABLE DITcDIXcDIcDIPcDIEXcDIEcDIEPcDATcDAXcDAcDAPcDUOXcDUOcDOTcDOXcDOcDOPcDEXcDEcDEP",
    "cDUTcDUXcDUcDUPcDURXcDURcTITcTIXcTIcTIPcTIEXcTIEcTIEPcTATcTAXcTAcTAPcTUOTcTUOXcTUOcTUOPcTOT",
    "cTOXcTOcTOPcTEXcTEcTEPcTUTcTUXcTUcTUPcTURXcTURcDDITcDDIXcDDIcDDIPcDDIEXcDDIEcDDIEPcDDAT",
    "cDDAXcDDAcDDAPcDDUOXcDDUOcDDUOPcDDOTcDDOXcDDOcDDOPcDDEXcDDEcDDEPcDDUTcDDUXcDDUcDDUPcDDURX",
    "cDDURcNDITcNDIXcNDIcNDIPcNDIEXcNDIEcNDATcNDAXcNDAcNDAPcNDOTcNDOXcNDOcNDOPcNDEXcNDEcNDEP",
    "cNDUTcNDUXcNDUcNDUPcNDURXcNDURcHNITcHNIXcHNIcHNIPcHNIETcHNIEXcHNIEcHNIEPcHNATcHNAXcHNAcHNAP",
    "cHNUOXcHNUOcHNOTcHNOXcHNOPcHNEXcHNEcHNEPcHNUTcNITcNIXcNIcNIPcNIEXcNIEcNIEPcNAXcNAcNAPcNUOX",
    "cNUOcNUOPcNOTcNOXcNOcNOPcNEXcNEcNEPcNUTcNUXcNUcNUPcNURXcNURcHLITcHLIXcHLIcHLIPcHLIEXcHLIE",
    "cHLIEPcHLATcHLAXcHLAcHLAPcHLUOXcHLUOcHLUOPcHLOXcHLOcHLOPcHLEXcHLEcHLEPcHLUTcHLUXcHLUcHLUP",
    "cHLURXcHLURcHLYTcHLYXcHLYcHLYPcHLYRXcHLYRcLITcLIXcLIcLIPcLIETcLIEXcLIEcLIEPcLATcLAXcLAcLAP",
    "cLUOTcLUOXcLUOcLUOPcLOTcLOXcLOcLOPcLEXcLEcLEPcLUTcLUXcLUcLUPcLURXcLURcLYTcLYXcLYcLYPcLYRX",
    "cLYRcGITcGIXcGIcGIPcGIETcGIEXcGIEcGIEPcGATcGAXcGAcGAPcGUOTcGUOXcGUOcGUOPcGOTcGOXcGOcGOPcGET",
    "cGEXcGEcGEPcGUTcGUXcGUcGUPcGURXcGURcKITcKIXcKIcKIPcKIEXcKIEcKIEPcKAT"]⟩,
  ⟨0xA200, [
    "aYI SYLLABLE KAXcKAcKAPcKUOXcKUOcKUOPcKOTcKOXcKOcKOPcKETcKEXcKEcKEPcKUTcKUXcKUcKUPcKURXcKUR",
    "cGGITcGGIXcGGIcGGIEXcGGIEcGGIEPcGGATcGGAXcGGAcGGAPcGGUOTcGGUOXcGGUOcGGUOPcGGOTcGGOXcGGO",
    "cGGOPcGGETcGGEXcGGEcGGEPcGGUTcGGUXcGGUcGGUPcGGURXcGGURcMGIEXcMGIEcMGATcMGAXcMGAcMGAPcMGUOX",
    "cMGUOcMGUOPcMGOTcMGOXcMGOcMGOPcMGEXcMGEcMGEPcMGUTcMGUXcMGUcMGUPcMGURXcMGURcHXITcHXIXcHXI",
    "cHXIPcHXIETcHXIEXcHXIEcHXIEPcHXATcHXAXcHXAcHXAPcHXUOTcHXUOXcHXUOcHXUOPcHXOTcHXOXcHXOcHXOP",
    "cHXEXcHXEcHXEPcNGIEXcNGIEcNGIEPcNGATcNGAXcNGAcNGAPcNGUOTcNGUOXcNGUOcNGOTcNGOXcNGOcNGOPcNGEX",
    "cNGEcNGEPcHITcHIEXcHIEcHATcHAXcHAcHAPcHUOTcHUOXcHUOcHUOPcHOTcHOXcHOcHOPcHEXcHEcHEPcWATcWAX",
    "cWAcWAPcWUOXcWUOcWUOPcWOXcWOcWOPcWEXcWEcWEPcZITcZIXcZIcZIPcZIEXcZIEcZIEPcZATcZAXcZAcZAP",
    "cZUOXcZUOcZUOPcZOTcZOXcZOcZOPcZEXcZEcZEPcZUTcZUXcZUcZUPcZURXcZURcZYTcZYXcZYcZYPcZYRXcZYR",
    "cCITcCIXcCIcCIPcCIETcCIEXcCIEcCIEPcCATcCAXcCAcCAPcCUOXcCUOcCUOPcCOTcCOXcCOcCOPcCEXcCEcCEP",
    "cCUTcCUXcCUcCUPcCURXcCURcCYTcCYXcCYcCYPcCYRXcCYRcZZITcZZIXcZZIcZZIPcZZIETcZZIEXcZZIEcZZIEP",
    "cZZATcZZAXcZZAcZZAPcZZOXcZZOcZZOPcZZEXcZZEcZZEPcZZUXcZZUcZZUPcZZURXcZZURcZZYTcZZYXcZZYcZZYP",
    "cZZYRXcZZYRcNZITcNZIXcNZIcNZIPcNZIEXcNZIEcNZIEPcNZATcNZAXcNZAcNZAPcNZUOXcNZUOcNZOXcNZOP",
    "cNZEXcNZEcNZUXcNZU"]⟩,
  ⟨0xA300, [
    "aYI SYLLABLE NZUPcNZURXcNZURcNZYTcNZYXcNZYcNZYPcNZYRXcNZYRcSITcSIXcSIcSIPcSIEXcSIEcSIEPcSAT",
    "cSAXcSAcSAPcSUOXcSUOcSUOPcSOTcSOXcSOcSOPcSEXcSEcSEPcSUTcSUXcSUcSUPcSURXcSURcSYTcSYXcSYcSYP",
    "cSYRXcSYRcSSITcSSIXcSSIcSSIPcSSIEXcSSIEcSSIEPcSSATcSSAXcSSAcSSAPcSSOTcSSOXcSSOcSSOPcSSEX",
    "cSSEcSSEPcSSUTcSSUXcSSUcSSUPcSSYTcSSYXcSSYcSSYPcSSYRXcSSYRcZHATcZHAXcZHAcZHAPcZHUOXcZHUO",
    "cZHUOPcZHOTcZHOXcZHOcZHOPcZHETcZHEXcZHEcZHEPcZHUTcZHUXcZHUcZHUPcZHURXcZHURcZHYTcZHYXcZHY",
    "cZHYPcZHYRXcZHYRcCHATcCHAXcCHAcCHAPcCHUOTcCHUOXcCHUOcCHUOPcCHOTcCHOXcCHOcCHOPcCHETcCHEXcCHE",
    "cCHEPcCHUXcCHUcCHUPcCHURXcCHURcCHYTcCHYXcCHYcCHYPcCHYRXcCHYRcRRAXcRRAcRRUOXcRRUOcRROTcRROX",
    "cRROcRROPcRRETcRREXcRREcRREPcRRUTcRRUXcRRUcRRUPcRRURXcRRURcRRYTcRRYXcRRYcRRYPcRRYRXcRRYR",
    "cNRATcNRAXcNRAcNRAPcNROXcNROcNROPcNRETcNREXcNREcNREPcNRUTcNRUXcNRUcNRUPcNRURXcNRURcNRYT",
    "cNRYXcNRYcNRYPcNRYRXcNRYRcSHATcSHAXcSHAcSHAPcSHUOXcSHUOcSHUOPcSHOTcSHOXcSHOcSHOPcSHETcSHEX",
    "cSHEcSHEPcSHUTcSHUXcSHUcSHUPcSHURXcSHURcSHYTcSHYXcSHYcSHYPcSHYRXcSHYRcRATcRAXcRAcRAPcRUOX",
    "cRUOcRUOPcROTcROXcROcROPcREXcREcREPcRUTcRUXcRUcRUPcRURXcRURcRYTcRYXcRYcRYPcRYRXcRYRcJITcJIX",
    "cJIcJIPcJIETcJIEXcJIEcJIEPcJUOTcJUOXcJUOcJUOPcJOTcJOXcJOcJOPcJUTcJUXcJUcJUPcJURXcJURcJYT",
    "cJYXcJYcJYPcJYRXcJYRcQITcQIXcQIcQIP"]⟩,
  ⟨0xA400, [
    "aYI SYLLABLE QIETcQIEXcQIEcQIEPcQUOTcQUOXcQUOcQUOPcQOTcQOXcQOcQOPcQUTcQUXcQUcQUPcQURXcQUR",
    "cQYTcQYXcQYcQYPcQYRXcQYRcJJITcJJIXcJJIcJJIPcJJIETcJJIEXcJJIEcJJIEPcJJUOXcJJUOcJJUOPcJJOT",
    "cJJOXcJJOcJJOPcJJUTcJJUXcJJUcJJUPcJJURXcJJURcJJYTcJJYXcJJYcJJYPcNJITcNJIXcNJIcNJIPcNJIET",
    "cNJIEXcNJIEcNJIEPcNJUOXcNJUOcNJOTcNJOXcNJOcNJOPcNJUXcNJUcNJUPcNJURXcNJURcNJYTcNJYXcNJYcNJYP",
    "cNJYRXcNJYRcNYITcNYIXcNYIcNYIPcNYIETcNYIEXcNYIEcNYIEPcNYUOXcNYUOcNYUOPcNYOTcNYOXcNYOcNYOP",
    "cNYUTcNYUXcNYUcNYUPcXITcXIXcXIcXIPcXIETcXIEXcXIEcXIEPcXUOXcXUOcXOTcXOXcXOcXOPcXYTcXYXcXY",
    "cXYPcXYRXcXYRcYITcYIXcYIcYIPcYIETcYIEXcYIEcYIEPcYUOTcYUOXcYUOcYUOPcYOTcYOXcYOcYOPcYUTcYUX",
    "cYUcYUPcYURXcYURcYYTcYYXcYYcYYPcYYRXcYYR...bRADICAL QOTcLIcKITcNYIPcCYPcSSIcGGOPcGEPcMI",
    "cHXITcLYRcBBUTcMOPcYOcPUTcHXUOcTATcGAcZUPcCYTcDDURcBURcGGUOcNYOPcTUcOPcJJUTcZOTcPYTcHMOcYIT",
    "cVURcSHYcVEPcZAcJOcNZUPcJJYcGOTcJJIEcWOcDUcSHURcLIEcCYcCUOPcCIPcHXOPcSHATcZURcSHOPcCHE",
    "cZZIETcNBIEcKE.........aLISU LETTER BAcPAcPHAcDAcTAcTHAcGAcKAcKHAcJAcCAcCHAcDZAcTSAcTSHAcMA",
    "cNAcLAcSAcZHAcZAcNGAcHAcXAcHHAcFAcWAcSHAcYAcGHAcAcAEcEcEUcIcOcUcUEcUHcOEcTONE MYA TIdNA PO",
    "dMYA CYAeBOeNAeJEUbPUNCTUATION COMMAcFULL STOP"]⟩]

end LogHarvest.Text.Table
